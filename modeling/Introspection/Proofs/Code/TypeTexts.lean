import Introspection.Code.TypeExpr
import Introspection.Proofs.Text.Reading
import Introspection.Resolution

/-!
# Texts of types

The text of a type is read in one way only: it ends where its own brackets are closed, and no text
is the beginning of another one. So the types that are declared for native values differ in their
texts if they differ at all, and they differ unless their descriptors differ in the kinds of texts
only, which all become strings.
-/

namespace Introspection

namespace Code

/-! ## Unique reading -/

/-- The forms of types, as they can be told apart at the beginning of a text. -/
inductive TypeForm
  | name (n : TypeName)
  | vec
  | hashMap
  | tuple
  deriving DecidableEq

namespace TypeForm

/-- The text up to the first part. -/
def opening : TypeForm → List Char
  | name n => n.text.toList
  | vec => "Vec < ".toList
  | hashMap => "std :: collections :: HashMap < ".toList
  | tuple => "(".toList

def all : List TypeForm :=
  [name .bool, name (.int .u8), name (.int .i16), name (.int .u16), name (.int .i32),
    name (.int .u32), name (.int .i64), name (.int .u64), name .float, name .string,
    name .ownedObjectPath, name .ownedSignature, name .ownedFd, name .ownedValue, name .array,
    name .dict, name .struct, vec, hashMap, tuple]

theorem mem_all (form : TypeForm) : form ∈ all := by
  cases form with
  | name n =>
    cases n with
    | int type => cases type <;> decide
    | _ => decide
  | _ => decide

theorem isPrefixFree_opening : Text.IsPrefixFree opening := by
  have hall : ∀ form ∈ all, ∀ form' ∈ all, form.opening <+: form'.opening → form = form' := by
    decide +kernel
  intro form form'
  exact hall form form.mem_all form' form'.mem_all

end TypeForm

namespace TypeExpr

/-- A member of a tuple with the comma behind it. -/
def memberText (t : TypeExpr) : List Char :=
  t.text.toList ++ " ,".toList

/-- The form of a type, and what follows its opening. -/
inductive WrittenAs : TypeExpr → TypeForm → List Char → Prop
  | name (n : TypeName) : WrittenAs (.name n) (.name n) []
  | vec (element : TypeExpr) : WrittenAs (.vec element) .vec (element.text.toList ++ " >".toList)
  | hashMap (key value : TypeExpr) :
      WrittenAs (.hashMap key value) .hashMap
        (key.text.toList ++ (" , ".toList ++ (value.text.toList ++ " >".toList)))
  | tuple (members : List TypeExpr) :
      WrittenAs (.tuple members) .tuple
        (" ".toList.intercalate (members.map memberText) ++ ")".toList)

theorem exists_writtenAs (t : TypeExpr) :
    ∃ form rest, t.WrittenAs form rest ∧ t.text.toList = form.opening ++ rest := by
  cases t with
  | name n =>
    refine ⟨_, _, .name n, ?_⟩
    rw [text_name, List.append_nil]
    rfl
  | vec element =>
    refine ⟨_, _, .vec element, ?_⟩
    rw [text_vec, String.toList_append, String.toList_append, List.append_assoc]
    rfl
  | hashMap key value =>
    refine ⟨_, _, .hashMap key value, ?_⟩
    rw [text_hashMap]
    simp only [String.toList_append, List.append_assoc]
    rfl
  | tuple members =>
    refine ⟨_, _, .tuple members, ?_⟩
    have hmembers : (members.map (·.text ++ " ,")).map String.toList = members.map memberText := by
      rw [List.map_map]
      exact List.map_congr_left fun t _ ↦ String.toList_append
    rw [text_tuple, spaced, String.toList_append, String.toList_append, String.toList_intercalate,
      hmembers, List.append_assoc]
    rfl

/-- Equal texts have the same form, and differ only in what follows the opening. -/
theorem exists_common_form {t t' : TypeExpr} {rest rest' : List Char}
    (h : t.text.toList ++ rest = t'.text.toList ++ rest') :
    ∃ form tail tail', t.WrittenAs form tail ∧ t'.WrittenAs form tail' ∧
      tail ++ rest = tail' ++ rest' := by
  obtain ⟨form, tail, ht, htext⟩ := t.exists_writtenAs
  obtain ⟨form', tail', ht', htext'⟩ := t'.exists_writtenAs
  rw [htext, htext', List.append_assoc, List.append_assoc] at h
  obtain ⟨rfl, htail⟩ := TypeForm.isPrefixFree_opening.append_inj h
  exact ⟨form, tail, tail', ht, ht', htail⟩

theorem text_append_ne_paren (t : TypeExpr) (rest rest' : List Char) :
    t.text.toList ++ rest ≠ ")".toList ++ rest' := by
  obtain ⟨form, tail, -, htext⟩ := t.exists_writtenAs
  have hall : ∀ form ∈ TypeForm.all, form.opening.head? ≠ some ')' ∧ form.opening ≠ [] := by
    decide +kernel
  obtain ⟨hhead, hnil⟩ := hall form form.mem_all
  intro h
  rw [htext, List.append_assoc] at h
  cases hopening : form.opening with
  | nil => exact hnil hopening
  | cons c cs =>
    rw [hopening] at h hhead
    exact hhead (congrArg some (List.cons.inj h).1)

/-- What follows the text of a type does not matter for where it ends. -/
theorem text_append_inj {t t' : TypeExpr} {rest rest' : List Char}
    (h : t.text.toList ++ rest = t'.text.toList ++ rest') : t = t' ∧ rest = rest' := by
  induction t generalizing t' rest rest' with
  | name n =>
    obtain ⟨form, tail, tail', ht, ht', htail⟩ := exists_common_form h
    cases ht
    cases ht'
    exact ⟨rfl, htail⟩
  | vec element ih =>
    obtain ⟨form, tail, tail', ht, ht', htail⟩ := exists_common_form h
    cases ht
    cases ht'
    rw [List.append_assoc, List.append_assoc] at htail
    obtain ⟨rfl, hclosed⟩ := ih htail
    exact ⟨rfl, List.append_cancel_left hclosed⟩
  | hashMap key value ihk ihv =>
    obtain ⟨form, tail, tail', ht, ht', htail⟩ := exists_common_form h
    cases ht
    cases ht'
    simp only [List.append_assoc] at htail
    obtain ⟨rfl, hvalue⟩ := ihk htail
    obtain ⟨rfl, hclosed⟩ := ihv (List.append_cancel_left hvalue)
    exact ⟨rfl, List.append_cancel_left hclosed⟩
  | tuple members ih =>
    obtain ⟨form, tail, tail', ht, ht', htail⟩ := exists_common_form h
    cases ht
    cases ht'
    rw [List.append_assoc, List.append_assoc] at htail
    have hmember : ∀ t ∈ members, ∀ {t' : TypeExpr} {rest rest' : List Char}, True → True →
        t.memberText ++ rest = t'.memberText ++ rest' → t = t' ∧ rest = rest' := by
      intro t ht t' rest rest' _ _ hmembers
      rw [memberText, memberText, List.append_assoc, List.append_assoc] at hmembers
      obtain ⟨rfl, hcomma⟩ := ih t ht hmembers
      exact ⟨rfl, List.append_cancel_left hcomma⟩
    have hstop (t : TypeExpr) (rest rest' : List Char) :
        t.memberText ++ rest ≠ ")".toList ++ rest' := by
      rw [memberText, List.append_assoc]
      exact t.text_append_ne_paren _ _
    obtain ⟨rfl, hrest⟩ := Text.intercalate_append_inj (fun _ _ heq ↦ by cases heq) hstop
      (fun _ ↦ ⟨trivial, trivial⟩) hmember htail
    exact ⟨rfl, hrest⟩

theorem text_injective : Function.Injective text := by
  intro t t' h
  have htext : t.text.toList ++ [] = t'.text.toList ++ [] := by rw [h]
  exact (text_append_inj htext).1

end TypeExpr

end Code

/-! ## Descriptors up to the kinds of texts -/

/-- Every kind of text taken for a string. -/
def Primitive.plain : Primitive → Primitive
  | objectPath | signature | unixFd => string
  | p => p

namespace Descriptor

mutual

/-- The descriptor with every primitive replaced by another one. -/
def map (f : Primitive → Primitive) : Descriptor → Descriptor
  | primitive p => primitive (f p)
  | array element => array (element.map f)
  | dictionary key value => dictionary (key.map f) (value.map f)
  | struct members => struct (mapAll f members)

def mapAll (f : Primitive → Primitive) : List Descriptor → List Descriptor
  | [] => []
  | d :: ds => d.map f :: mapAll f ds

end

theorem mapAll_eq_map (f : Primitive → Primitive) (ds : List Descriptor) :
    mapAll f ds = List.map (map f) ds := by
  induction ds with
  | nil => rfl
  | cons d ds ih => rw [mapAll, ih, List.map_cons]

theorem map_struct (f : Primitive → Primitive) (members : List Descriptor) :
    (struct members).map f = struct (List.map (map f) members) := by
  rw [map, mapAll_eq_map]

end Descriptor

namespace Code

/-- The plain primitive that a type is declared for. The last three types are declared for
containers on the wire only. -/
def TypeName.primitive : TypeName → Primitive
  | bool => .boolean
  | int .u8 => .byte
  | int .i16 => .int16
  | int .u16 => .uint16
  | int .i32 => .int32
  | int .u32 => .uint32
  | int .i64 => .int64
  | int .u64 => .uint64
  | float => .double
  | string => .string
  | ownedObjectPath => .objectPath
  | ownedSignature => .signature
  | ownedFd => .unixFd
  | ownedValue | array | dict | struct => .variant

namespace TypeExpr

mutual

/-- The descriptor that a type is declared for, with plain texts. -/
def descriptor : TypeExpr → Descriptor
  | name n => .primitive n.primitive
  | vec element => .array element.descriptor
  | hashMap key value => .dictionary key.descriptor value.descriptor
  | tuple members => .struct (descriptors members)

def descriptors : List TypeExpr → List Descriptor
  | [] => []
  | t :: ts => t.descriptor :: descriptors ts

end

theorem descriptors_eq_map (ts : List TypeExpr) : descriptors ts = ts.map descriptor := by
  induction ts with
  | nil => rfl
  | cons t ts ih => rw [descriptors, ih, List.map_cons]

end TypeExpr

end Code

open Code

namespace Descriptor

/-- The declared type of a native value shows its descriptor, texts apart. -/
theorem descriptor_typeExpr_native (d : Descriptor) :
    d.native.typeExpr.descriptor = d.map Primitive.plain := by
  induction d with
  | primitive p => cases p <;> rfl
  | array element ih =>
    by_cases h : element = primitive .byte
    · subst h
      rfl
    · rw [native_array h, ValueType.typeExpr, TypeExpr.descriptor, ih, map]
  | dictionary key value ihk ihv =>
    rw [native, ValueType.typeExpr, TypeExpr.descriptor, ihk, ihv, map]
  | struct members ih =>
    rw [native_struct, ValueType.typeExpr_tuple, TypeExpr.descriptor, TypeExpr.descriptors_eq_map,
      map_struct, List.map_map, List.map_map]
    exact congrArg struct (List.map_congr_left ih)

theorem map_plain_eq_byte_iff {d : Descriptor} :
    d.map Primitive.plain = primitive .byte ↔ d = primitive .byte := by
  cases d with
  | primitive p => cases p <;> simp [map, Primitive.plain]
  | _ => simp [map]

/-- The kinds of texts make no difference to the declared type. -/
theorem typeExpr_native_map_plain (d : Descriptor) :
    (d.map Primitive.plain).native.typeExpr = d.native.typeExpr := by
  induction d with
  | primitive p => cases p <;> rfl
  | array element ih =>
    by_cases h : element = primitive .byte
    · subst h
      rfl
    · rw [map, native_array h, native_array (mt map_plain_eq_byte_iff.1 h), ValueType.typeExpr,
        ValueType.typeExpr, ih]
  | dictionary key value ihk ihv =>
    rw [map, native, native, ValueType.typeExpr, ValueType.typeExpr, ihk, ihv]
  | struct members ih =>
    rw [map_struct, native_struct, native_struct, ValueType.typeExpr_tuple,
      ValueType.typeExpr_tuple, List.map_map, List.map_map, List.map_map]
    exact congrArg TypeExpr.tuple (List.map_congr_left ih)

theorem typeExpr_native_eq_iff {d d' : Descriptor} :
    d.native.typeExpr = d'.native.typeExpr ↔ d.map Primitive.plain = d'.map Primitive.plain := by
  constructor
  · intro h
    rw [← descriptor_typeExpr_native, ← descriptor_typeExpr_native, h]
  · intro h
    rw [← typeExpr_native_map_plain d, ← typeExpr_native_map_plain d', h]

/-- Two descriptors have the same declared type in native mode, as texts, exactly if they are equal
once all texts, object paths, signatures and file descriptors are taken for strings. -/
theorem typeExpr_text_native_eq_iff (d d' : Descriptor) :
    ∃ type type', d.resolve .native = .ok type ∧ d'.resolve .native = .ok type' ∧
      (type.typeExpr.text = type'.typeExpr.text ↔
        d.map Primitive.plain = d'.map Primitive.plain) := by
  refine ⟨d.native, d'.native, rfl, rfl, ?_⟩
  rw [TypeExpr.text_injective.eq_iff]
  exact typeExpr_native_eq_iff

end Descriptor

end Introspection
