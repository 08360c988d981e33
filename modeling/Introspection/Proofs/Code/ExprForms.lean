import Introspection.Proofs.Code.Tokens

/-!
# Forms of expressions

The beginning of the text of an expression shows which form it has, and what follows the beginning
is made of the texts of its parts. The entries of a map stand where the items of a list stand, so
items and entries are taken together. Of a number only the sign or the first digit is known at the
beginning; what else is written of it is its numeral.
-/

namespace Introspection.Code

/-! ## Numbers -/

namespace Expr

/-- What is written of a number. -/
def numeral? : Expr → Option Numeral
  | int n type => some ⟨n < 0, Nat.toDigits 10 n.natAbs, type, isDecimal_toDigits _⟩
  | float x => some ⟨x.isNegative, x.magnitude.toList, none, x.isDecimal_magnitude⟩
  | _ => none

theorem toList_signed (negative : Bool) (magnitude : String) :
    (signed negative magnitude).toList = Numeral.signText negative ++ magnitude.toList := by
  cases negative with
  | false => rfl
  | true => exact String.toList_append

theorem toList_text_of_numeral? {e : Expr} {m : Numeral} (h : e.numeral? = some m) :
    e.text.toList = m.text := by
  cases e with
  | int n type =>
    cases h
    rw [text_int, toList_signed, String.toList_append, Decimal.toList_toString]
    rfl
  | float x =>
    cases h
    rw [text_float, toList_signed, Numeral.text]
    exact congrArg _ (List.append_nil _).symm
  | _ => cases h

theorem eq_of_numeral?_eq {e e' : Expr} {m : Numeral} (h : e.numeral? = some m)
    (h' : e'.numeral? = some m) : e = e' := by
  cases e with
  | int n type =>
    cases e' with
    | int n' type' =>
      have hm := Option.some.inj (h.trans h'.symm)
      simp only [Numeral.mk.injEq, decide_eq_decide] at hm
      obtain ⟨hsign, hdigits, rfl⟩ := hm
      have habs : n.natAbs = n'.natAbs := Text.toDigits_inj (by decide) (by decide) hdigits
      have hn : n = n' := by omega
      rw [hn]
    | float x' =>
      have hdigits := congrArg Numeral.digits (Option.some.inj (h.trans h'.symm))
      exact absurd hdigits.symm (x'.toList_magnitude_ne_toDigits _)
    | _ => cases h'
  | float x =>
    cases e' with
    | int n' type' =>
      have hdigits := congrArg Numeral.digits (Option.some.inj (h.trans h'.symm))
      exact absurd hdigits (x.toList_magnitude_ne_toDigits _)
    | float x' =>
      have hm := Option.some.inj (h.trans h'.symm)
      simp only [Numeral.mk.injEq, String.toList_inj] at hm
      rw [Double.eq_of_magnitude_eq hm.1 hm.2.1]
    | _ => cases h'
  | _ => cases h

theorem number_append_inj {e e' : Expr} {m m' : Numeral} {rest rest' : List Char}
    (he : e.numeral? = some m) (he' : e'.numeral? = some m') (hrest : Follows rest)
    (hrest' : Follows rest') (h : e.text.toList ++ rest = e'.text.toList ++ rest') :
    e = e' ∧ rest = rest' := by
  rw [toList_text_of_numeral? he, toList_text_of_numeral? he'] at h
  obtain ⟨rfl, hrest⟩ := Numeral.text_append_inj hrest hrest' h
  exact ⟨eq_of_numeral?_eq he he', hrest⟩

end Expr

/-! ## Items -/

/-- What may stand between the commas of a list. -/
inductive Item
  | expr (e : Expr)
  | entry (key value : Expr)

namespace Item

def text : Item → List Char
  | expr e => e.text.toList
  | entry key value =>
    "(".toList ++ (key.text.toList ++ (" , ".toList ++ (value.text.toList ++ ")".toList)))

def listText (items : List Item) : List Char :=
  " , ".toList.intercalate (items.map text)

/-- Where the text of the item is read, there is no other item and no other rest. -/
structure IsTold (item : Item) : Prop where
  append_inj : ∀ {item' : Item} {rest rest' : List Char}, Follows rest → Follows rest' →
    item.text ++ rest = item'.text ++ rest' → item = item' ∧ rest = rest'

end Item

/-! ## Forms -/

/-- The forms of items, as they can be told apart at the beginning of a text. -/
inductive ExprForm
  /-- The sign or the first digit is known. -/
  | number (first : Option (Fin 10))
  | bool (b : Bool)
  | emptyString
  | string
  | emptyVec
  | list
  | ownedValue
  | emptyMap
  | tuple
  | default
  | array
  | dict
  | struct
  deriving DecidableEq

namespace ExprForm

/-- The text up to the first part. -/
def opening : ExprForm → List Char
  | number none => "-".toList
  | number (some d) => [Nat.digitChar d]
  | bool true => "true".toList
  | bool false => "false".toList
  | emptyString => "String :: new ()".toList
  | string => "String :: from (".toList
  | emptyVec => "Vec :: < ".toList
  | list => "vec ! [".toList
  | ownedValue => "zvariant :: OwnedValue :: from (zvariant :: Value :: from (".toList
  | emptyMap => "std :: collections :: HashMap :: < ".toList
  | tuple => "(".toList
  | default => "< ".toList
  | array => "zvariant :: Array :: new (".toList
  | dict => "zvariant :: Dict :: new (".toList
  | struct => "zvariant :: StructureBuilder :: new () ".toList

def all : List ExprForm :=
  number none :: (List.finRange 10).map (number <| some ·) ++
    [bool true, bool false, emptyString, string, emptyVec, list, ownedValue, emptyMap, tuple,
      default, array, dict, struct]

theorem mem_all (form : ExprForm) : form ∈ all := by
  cases form with
  | number first =>
    cases first with
    | none => decide
    | some d =>
      revert d
      decide
  | bool b => cases b <;> decide
  | _ => decide

theorem isPrefixFree_opening : Text.IsPrefixFree opening := by
  have hall : ∀ form ∈ all, ∀ form' ∈ all, form.opening <+: form'.opening → form = form' := by
    decide +kernel
  intro form form'
  exact hall form form.mem_all form' form'.mem_all

end ExprForm

namespace Expr

/-- A member of a tuple with the comma behind it. -/
def memberText (e : Expr) : List Char :=
  e.text.toList ++ " ,".toList

/-- A field of a struct with the call that adds it. -/
def fieldText (e : Expr) : List Char :=
  ". add_field (".toList ++ (e.text.toList ++ (")".toList ++ " ".toList))

theorem fieldText_append (e : Expr) (rest : List Char) :
    e.fieldText ++ rest =
      ". add_field (".toList ++ (e.text.toList ++ (")".toList ++ (" ".toList ++ rest))) := by
  -- For lists in general, lest the literals be taken apart while matching.
  have hassoc (as bs cs ds es : List Char) :
      as ++ (bs ++ (cs ++ ds)) ++ es = as ++ (bs ++ (cs ++ (ds ++ es))) := by
    simp only [List.append_assoc]
  exact hassoc _ _ _ _ _

/-- The end of a struct is told apart from one more field. -/
theorem fieldText_append_ne_build (e : Expr) (rest rest' : List Char) :
    e.fieldText ++ rest ≠ ". build ()".toList ++ rest' := by
  intro h
  cases h

end Expr

namespace Item

/-- The form of an item, and what follows its opening. -/
inductive WrittenAs : Item → ExprForm → List Char → Prop
  | int (n : Int) (type : Option IntType) (first : Option (Fin 10)) (tail : List Char) :
      WrittenAs (.expr (.int n type)) (.number first) tail
  | float (x : Double) (first : Option (Fin 10)) (tail : List Char) :
      WrittenAs (.expr (.float x)) (.number first) tail
  | bool (b : Bool) : WrittenAs (.expr (.bool b)) (.bool b) []
  | emptyString : WrittenAs (.expr (.string "")) .emptyString []
  | string {s : String} :
      s ≠ "" → WrittenAs (.expr (.string s)) .string ((stringLiteral s).toList ++ ")".toList)
  | emptyVec (element : TypeExpr) :
      WrittenAs (.expr (.emptyVec element)) .emptyVec
        (element.text.toList ++ " > :: new ()".toList)
  | vec (items : List Expr) :
      WrittenAs (.expr (.vec items)) .list (listText (items.map expr) ++ "]".toList)
  | map (key value : TypeExpr) (entries : List (Expr × Expr)) :
      WrittenAs (.expr (.map key value entries)) .list
        (listText (entries.map fun e ↦ entry e.1 e.2) ++ ("]".toList ++ (" . ".toList ++
          ("into_iter () . collect :: < std :: collections :: HashMap < ".toList ++
            (key.text.toList ++ (" , ".toList ++ (value.text.toList ++ " >> ()".toList)))))))
  | ownedValue (inner : Expr) :
      WrittenAs (.expr (.ownedValue inner)) .ownedValue
        (inner.text.toList ++ (")".toList ++ ")".toList))
  | emptyMap (key value : TypeExpr) :
      WrittenAs (.expr (.emptyMap key value)) .emptyMap
        (key.text.toList ++ (" , ".toList ++ (value.text.toList ++ " > :: new ()".toList)))
  | tuple (members : List Expr) :
      WrittenAs (.expr (.tuple members)) .tuple
        (" ".toList.intercalate (members.map Expr.memberText) ++ ")".toList)
  | default (type : TypeName) :
      WrittenAs (.expr (.default type)) .default (type.text.toList ++ " > :: default ()".toList)
  | array (element : String) :
      WrittenAs (.expr (.array element)) .array ((signatureText element).toList ++ ")".toList)
  | dict (key value : String) :
      WrittenAs (.expr (.dict key value)) .dict
        ((signatureText key).toList ++
          (" , ".toList ++ ((signatureText value).toList ++ " ,)".toList)))
  | struct (fields : List Expr) :
      WrittenAs (.expr (.struct fields)) .struct
        (fields.flatMap Expr.fieldText ++ ". build ()".toList)
  | entry (key value : Expr) :
      WrittenAs (.entry key value) .tuple
        (key.text.toList ++ (" , ".toList ++ (value.text.toList ++ ")".toList)))

theorem exists_first (m : Numeral) :
    ∃ first tail, m.text = (ExprForm.number first).opening ++ tail := by
  cases hsign : m.negative with
  | true =>
    refine ⟨none, ' ' :: (m.digits ++ Numeral.suffixText m.type), ?_⟩
    rw [Numeral.text, hsign]
    rfl
  | false =>
    obtain ⟨d, hd⟩ := m.isDecimal_digits.exists_head
    obtain ⟨tail, htail⟩ := List.head?_eq_some_iff.1 hd
    refine ⟨some d, tail ++ Numeral.suffixText m.type, ?_⟩
    rw [Numeral.text, hsign, htail]
    rfl

theorem exists_first_of_numeral? {e : Expr} {m : Numeral} (h : e.numeral? = some m) :
    ∃ first tail, e.text.toList = (ExprForm.number first).opening ++ tail := by
  rw [Expr.toList_text_of_numeral? h]
  exact exists_first m

theorem exists_writtenAs (item : Item) :
    ∃ form rest, item.WrittenAs form rest ∧ item.text = form.opening ++ rest := by
  cases item with
  | entry key value => exact ⟨_, _, .entry key value, rfl⟩
  | expr e =>
    cases e with
    | bool b =>
      refine ⟨_, _, .bool b, ?_⟩
      cases b <;> rfl
    | int n type =>
      obtain ⟨first, tail, htext⟩ := exists_first_of_numeral? (e := .int n type) rfl
      exact ⟨_, _, .int n type first tail, htext⟩
    | float x =>
      obtain ⟨first, tail, htext⟩ := exists_first_of_numeral? (e := .float x) rfl
      exact ⟨_, _, .float x first tail, htext⟩
    | string s =>
      by_cases h : s = ""
      · subst h
        exact ⟨_, _, .emptyString, rfl⟩
      · refine ⟨_, _, .string h, ?_⟩
        have hempty : s.isEmpty ≠ true := by simpa using h
        rw [text, Expr.text_string, if_neg hempty, String.toList_append, String.toList_append,
          List.append_assoc]
        rfl
    | emptyVec element =>
      refine ⟨_, _, .emptyVec element, ?_⟩
      rw [text, Expr.text_emptyVec, String.toList_append, String.toList_append, List.append_assoc]
      rfl
    | vec items =>
      refine ⟨_, _, .vec items, ?_⟩
      rw [text, Expr.text_vec, commaSeparated, String.toList_append, String.toList_append,
        String.toList_intercalate, listText, List.map_map, List.map_map, List.append_assoc]
      rfl
    | ownedValue inner =>
      refine ⟨_, _, .ownedValue inner, ?_⟩
      rw [text, Expr.text_ownedValue, String.toList_append, String.toList_append,
        List.append_assoc]
      rfl
    | emptyMap key value =>
      refine ⟨_, _, .emptyMap key value, ?_⟩
      rw [text, Expr.text_emptyMap]
      simp only [String.toList_append, List.append_assoc]
      rfl
    | map key value entries =>
      refine ⟨_, _, .map key value entries, ?_⟩
      have hentries : (entries.map fun entry ↦
          "(" ++ entry.1.text ++ " , " ++ entry.2.text ++ ")").map String.toList =
            (entries.map fun e ↦ entry e.1 e.2).map text := by
        rw [List.map_map, List.map_map]
        refine List.map_congr_left fun e _ ↦ ?_
        simp only [Function.comp_apply, String.toList_append, List.append_assoc]
        rfl
      rw [text, Expr.text_map, commaSeparated, listText, ← hentries]
      simp only [String.toList_append, String.toList_intercalate, List.append_assoc]
      rfl
    | tuple members =>
      refine ⟨_, _, .tuple members, ?_⟩
      have hmembers : (members.map (·.text ++ " ,")).map String.toList =
          members.map Expr.memberText := by
        rw [List.map_map]
        exact List.map_congr_left fun e _ ↦ String.toList_append
      rw [text, Expr.text_tuple, spaced, String.toList_append, String.toList_append,
        String.toList_intercalate, hmembers, List.append_assoc]
      rfl
    | default type =>
      refine ⟨_, _, .default type, ?_⟩
      rw [text, Expr.text_default, String.toList_append, String.toList_append, List.append_assoc]
      rfl
    | array element =>
      refine ⟨_, _, .array element, ?_⟩
      rw [text, Expr.text_array, String.toList_append, String.toList_append, List.append_assoc]
      rfl
    | dict key value =>
      refine ⟨_, _, .dict key value, ?_⟩
      rw [text, Expr.text_dict]
      simp only [String.toList_append, List.append_assoc]
      rfl
    | struct fields =>
      refine ⟨_, _, .struct fields, ?_⟩
      have hfields : (String.join (fields.map fun field ↦
          ". add_field (" ++ field.text ++ ") ")).toList = fields.flatMap Expr.fieldText := by
        simp only [String.toList_join, List.flatMap_map, String.toList_append, List.append_assoc]
        rfl
      rw [text, Expr.text_struct, String.toList_append, String.toList_append, hfields,
        List.append_assoc]
      rfl

end Item

end Introspection.Code
