import Introspection.Primitive

/-!
# Type descriptors

A descriptor is the tree behind one complete type. It is written without blanks: a primitive as
its code, an array as `a` and its element, a dictionary as its key and value between `a{` and
`}`, a struct as its members between parentheses. The tree is free: empty structs and
dictionaries with container keys have a text as well, although no signature may hold them.
-/

namespace Introspection

inductive Descriptor
  | primitive (p : Primitive)
  | array (element : Descriptor)
  | dictionary (key value : Descriptor)
  | struct (members : List Descriptor)

namespace Descriptor

/-- Induction over the tree, with the hypothesis for every member of a struct. -/
@[elab_as_elim, induction_eliminator]
theorem induction {motive : Descriptor → Prop} (primitive : ∀ p, motive (.primitive p))
    (array : ∀ element, motive element → motive (.array element))
    (dictionary : ∀ key value, motive key → motive value → motive (.dictionary key value))
    (struct : ∀ members, (∀ d ∈ members, motive d) → motive (.struct members)) (d : Descriptor) :
    motive d :=
  @Descriptor.rec motive (fun ds ↦ ∀ d ∈ ds, motive d) primitive array dictionary struct nofun
    (fun _ _ h hs ↦ List.forall_mem_cons.2 ⟨h, hs⟩) d

mutual

def codes : Descriptor → List Char
  | primitive p => [p.code]
  | array element => 'a' :: element.codes
  | dictionary key value => 'a' :: '{' :: (key.codes ++ value.codes ++ ['}'])
  | struct members => '(' :: (codesAll members ++ [')'])

/-- The codes of several types written one after the other. -/
def codesAll : List Descriptor → List Char
  | [] => []
  | d :: ds => d.codes ++ codesAll ds

end

/-- The written form of a descriptor. -/
def text (d : Descriptor) : String :=
  String.ofList d.codes

/-- Whether the descriptor is a primitive that may serve as a dictionary key. -/
def isBasic : Descriptor → Bool
  | primitive p => p.isBasic
  | _ => false

theorem codesAll_eq_flatMap (ds : List Descriptor) : codesAll ds = ds.flatMap codes := by
  induction ds with
  | nil => rfl
  | cons d ds ih => rw [codesAll, ih, List.flatMap_cons]

@[simp] theorem codesAll_append (ds es : List Descriptor) :
    codesAll (ds ++ es) = codesAll ds ++ codesAll es := by
  simp only [codesAll_eq_flatMap, List.flatMap_append]

@[simp] theorem toList_text (d : Descriptor) : d.text.toList = d.codes :=
  String.toList_ofList

end Descriptor

end Introspection
