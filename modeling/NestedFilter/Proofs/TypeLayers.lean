import NestedFilter.Proofs.DeclaredType

/-!
Layers around the type that a field declares. The reader keeps pointers and lists in their order and
ends in what it makes of the innermost type, unless a wrapper has a type argument behind the one that
it wraps: of several arguments the last is followed, and that may be an allocator.
-/

set_option autoImplicit false

namespace NestedFilter

def isWrapper (name : String) : Bool := pointerWrappers.contains name || listWrappers.contains name

structure WrapperPath where
  scopes : List String
  name : String
  known : isWrapper name = true

def WrapperPath.segments (path : WrapperPath) : List String := path.scopes ++ [path.name]

inductive TypeLayer where
  | reference (lifetime : Option String) (isMutable : Bool)
  | slice
  | array (length : String)
  | paren
  | group
  | wrapper (path : WrapperPath) (lifetimes : List String) (behind : List TypeArgument)

def TypeArgument.type? : TypeArgument → Option TypeExpr
  | .lifetime _ => none
  | .expr type => some type

def TypeArgument.lastType? (arguments : List TypeArgument) : Option TypeExpr :=
  (arguments.filterMap TypeArgument.type?).getLast?

namespace TypeLayer

def around : TypeLayer → TypeExpr → TypeExpr
  | .reference life isMutable, inner => .reference life isMutable inner
  | .slice, inner => .slice inner
  | .array length, inner => .array inner length
  | .paren, inner => .paren inner
  | .group, inner => .group inner
  | .wrapper path lifetimes behind, inner =>
      .applied path.segments (lifetimes.map .lifetime ++ .expr inner :: behind)

def tree : TypeLayer → FieldType → FieldType
  | .reference _ _ => .pointer
  | .slice => .list
  | .array _ => .list
  | .paren => id
  | .group => id
  | .wrapper path _ _ => if pointerWrappers.contains path.name then .pointer else .list

-- The last type behind the one that is wrapped: an allocator of a vector, a hasher of a set.
def further? : TypeLayer → Option TypeExpr
  | .wrapper _ _ behind => TypeArgument.lastType? behind
  | _ => none

end TypeLayer

def wrapped (layers : List TypeLayer) (element : TypeExpr) : TypeExpr :=
  layers.foldr TypeLayer.around element

def layered (layers : List TypeLayer) (leaf : FieldType) : FieldType :=
  layers.foldr TypeLayer.tree leaf

-- No layer is around such a type; the name of a wrapper does not make one without a type to wrap.
def TypeExpr.IsElement : TypeExpr → Prop
  | .named _ => True
  | .applied segments arguments =>
      isWrapper (segments.getLastD "") = true → TypeArgument.lastType? arguments = none
  | .tuple _ => True
  | .other _ => True
  | _ => False

theorem last_type_append (before behind : List TypeArgument) :
    TypeArgument.lastType? (before ++ behind) =
      (TypeArgument.lastType? behind).or (TypeArgument.lastType? before) := by
  simp only [TypeArgument.lastType?, List.filterMap_append, List.getLast?_append]

theorem last_type_cons (argument : TypeArgument) (rest : List TypeArgument) :
    TypeArgument.lastType? (argument :: rest) =
      (TypeArgument.lastType? rest).or argument.type? := by
  rw [← List.singleton_append, last_type_append]
  cases argument <;> rfl

theorem last_type_lifetimes (lifetimes : List String) :
    TypeArgument.lastType? (lifetimes.map .lifetime) = none := by
  induction lifetimes with
  | nil => rfl
  | cons name rest ih =>
      rw [List.map_cons, last_type_cons, ih]
      rfl

theorem last_type_of_wrapped (lifetimes : List String) (inner : TypeExpr)
    (behind : List TypeArgument) :
    TypeArgument.lastType? (lifetimes.map .lifetime ++ .expr inner :: behind) =
      some ((TypeArgument.lastType? behind).getD inner) := by
  rw [last_type_append, last_type_cons, last_type_lifetimes]
  cases TypeArgument.lastType? behind <;> rfl

theorem last_field_type_eq (isRelation : Bool) (arguments : List TypeArgument) :
    TypeArgument.lastFieldType? isRelation arguments =
      (TypeArgument.lastType? arguments).map (TypeExpr.fieldType isRelation) := by
  induction arguments with
  | nil => rfl
  | cons argument rest ih =>
      rw [TypeArgument.lastFieldType?, ih, last_type_cons, Option.map_or]
      cases argument <;> rfl

theorem path_name (path : WrapperPath) : path.segments.getLastD "" = path.name := by
  simp [WrapperPath.segments]

theorem read_around (isRelation : Bool) (layer : TypeLayer) (inner : TypeExpr) :
    (layer.around inner).fieldType isRelation =
      ((layer.further?.getD inner).fieldType isRelation).map layer.tree := by
  -- The reader goes on with one type inside of each layer, which need not be the one it is around.
  cases layer with
  | reference | slice | array => rfl
  | paren | group => exact (congrFun Except.map_id (inner.fieldType isRelation)).symm
  | wrapper path lifetimes behind =>
      have found := last_type_of_wrapped lifetimes inner behind
      rw [TypeLayer.around, TypeExpr.fieldType, path_name, last_field_type_eq, found]
      by_cases pointer : pointerWrappers.contains path.name = true
      · simp only [Option.map_some, appliedType, TypeLayer.further?, TypeLayer.tree, if_pos pointer]
      · have list : listWrappers.contains path.name = true :=
          ((Bool.or_eq_true _ _).mp path.known).resolve_left pointer
        simp only [Option.map_some, appliedType, TypeLayer.further?, TypeLayer.tree, if_neg pointer,
          if_pos list]

theorem map_layered_append (outer inner : List TypeLayer)
    (x : Except DeclarationError FieldType) :
    (x.map (layered inner)).map (layered outer) = x.map (layered (outer ++ inner)) := by
  cases x with
  | error error => rfl
  | ok leaf => exact congrArg Except.ok List.foldr_append.symm

theorem read_wrapped (isRelation : Bool) (layers : List TypeLayer) (element : TypeExpr)
    (alone : ∀ layer ∈ layers, layer.further? = none) :
    (wrapped layers element).fieldType isRelation =
      (element.fieldType isRelation).map (layered layers) := by
  induction layers with
  | nil => exact (congrFun Except.map_id (element.fieldType isRelation)).symm
  | cons layer inner ih =>
      obtain ⟨first, rest⟩ := List.forall_mem_cons.mp alone
      have step := read_around isRelation layer (wrapped inner element)
      rw [first, Option.getD_none, ih rest] at step
      exact step.trans (map_layered_append [layer] inner _)

theorem tree_injective (layer : TypeLayer) : Function.Injective layer.tree := by
  have pointer : Function.Injective FieldType.pointer := fun _ _ => FieldType.pointer.inj
  have list : Function.Injective FieldType.list := fun _ _ => FieldType.list.inj
  cases layer with
  | reference => exact pointer
  | slice | array => exact list
  | paren | group => exact Function.injective_id
  | wrapper path lifetimes behind =>
      by_cases isPointer : pointerWrappers.contains path.name = true
      · simpa only [TypeLayer.tree, if_pos isPointer] using pointer
      · simpa only [TypeLayer.tree, if_neg isPointer] using list

theorem layered_injective (layers : List TypeLayer) : Function.Injective (layered layers) := by
  induction layers with
  | nil => exact Function.injective_id
  | cons layer rest ih => exact (tree_injective layer).comp ih

theorem map_layered_iff (layers : List TypeLayer) (x y : Except DeclarationError FieldType) :
    x.map (layered layers) = y.map (layered layers) ↔ x = y := by
  have injective := layered_injective layers
  cases x <;> cases y <;> simp [Except.map, injective.eq_iff]

-- The outermost layer with a further type. The reader goes on with the last of these, and what is
-- inside of the layer is never read.
structure Diverted (layers outer : List TypeLayer) (layer : TypeLayer) (inner : List TypeLayer)
    (last : TypeExpr) : Prop where
  split : layers = outer ++ layer :: inner
  alone : ∀ earlier ∈ outer, earlier.further? = none
  further : layer.further? = some last

theorem diverted_or_alone (layers : List TypeLayer) :
    (∀ layer ∈ layers, layer.further? = none) ∨
      ∃ outer layer inner last, Diverted layers outer layer inner last := by
  induction layers with
  | nil => exact .inl (by simp)
  | cons first rest ih =>
      cases further : first.further? with
      | some last => exact .inr ⟨[], first, rest, last, rfl, by simp, further⟩
      | none =>
          rcases ih with alone | ⟨outer, layer, inner, last, split, alone, found⟩
          · exact .inl (List.forall_mem_cons.mpr ⟨further, alone⟩)
          · exact .inr ⟨first :: outer, layer, inner, last, by rw [split, List.cons_append],
              List.forall_mem_cons.mpr ⟨further, alone⟩, found⟩

section

variable (isRelation : Bool) (layers outer : List TypeLayer) (layer : TypeLayer)
  (inner : List TypeLayer) (last element : TypeExpr)
  (diverted : Diverted layers outer layer inner last)

include diverted

theorem diverted_not_alone (alone : ∀ layer ∈ layers, layer.further? = none) : False := by
  have none := alone layer (by simp [diverted.split])
  cases none.symm.trans diverted.further

theorem read_diverted :
    (wrapped layers element).fieldType isRelation =
      (last.fieldType isRelation).map (layered (outer ++ [layer])) := by
  have inside : wrapped layers element =
      wrapped outer (layer.around (wrapped inner element)) := by
    rw [diverted.split]
    exact List.foldr_append
  have around := read_around isRelation layer (wrapped inner element)
  rw [diverted.further, Option.getD_some] at around
  rw [inside, read_wrapped isRelation outer _ diverted.alone, around]
  exact map_layered_append outer [layer] _

theorem diverted_read_iff :
    (wrapped layers element).fieldType isRelation =
        (element.fieldType isRelation).map (layered layers) ↔
      last.fieldType isRelation = (element.fieldType isRelation).map (layered inner) := by
  have whole : (element.fieldType isRelation).map (layered layers) =
      ((element.fieldType isRelation).map (layered inner)).map (layered (outer ++ [layer])) := by
    rw [diverted.split, List.append_cons, map_layered_append]
  rw [read_diverted isRelation layers outer layer inner last element diverted, whole]
  exact map_layered_iff (outer ++ [layer]) _ _

end

theorem element_read_iff (isRelation : Bool) (layers : List TypeLayer) (element : TypeExpr) :
    (wrapped layers element).fieldType isRelation =
        (element.fieldType isRelation).map (layered layers) ↔
      ∀ outer layer inner last, Diverted layers outer layer inner last →
        last.fieldType isRelation = (element.fieldType isRelation).map (layered inner) := by
  constructor
  · intro read outer layer inner last diverted
    exact (diverted_read_iff isRelation layers outer layer inner last element diverted).mp read
  · intro agrees
    rcases diverted_or_alone layers with alone | ⟨outer, layer, inner, last, diverted⟩
    · exact read_wrapped isRelation layers element alone
    · exact (diverted_read_iff isRelation layers outer layer inner last element diverted).mpr
        (agrees outer layer inner last diverted)

theorem applied_without_type (isRelation : Bool) (type : TypeExpr) (name : String)
    (last : Option (Except DeclarationError FieldType))
    (untyped : isWrapper name = true → last = none) :
    appliedType isRelation type name last = pathType isRelation type name := by
  cases last with
  | none => rfl
  | some inner =>
      have other : isWrapper name = false := by
        rw [Bool.eq_false_iff]
        intro known
        cases untyped known
      obtain ⟨pointer, list⟩ := (Bool.or_eq_false_iff).mp other
      simp only [appliedType, pointer, list, Bool.false_eq_true, if_false]

theorem element_reads_leaf (isRelation : Bool) (element : TypeExpr) (leaf : FieldType)
    (bare : element.IsElement) (read : element.fieldType isRelation = .ok leaf) :
    IsLeaf isRelation leaf := by
  cases element with
  | named segments => exact path_type_leaf isRelation _ _ leaf read
  | applied segments arguments =>
      rw [TypeExpr.fieldType, last_field_type_eq, applied_without_type] at read
      · exact path_type_leaf isRelation _ _ leaf read
      · intro known
        rw [bare known, Option.map_none]
  | tuple items => exact plain_type_leaf isRelation _ leaf read
  | other source => exact plain_type_leaf isRelation _ leaf read
  | reference | slice | array | paren | group => cases bare

theorem wrapper_path (segments : List String)
    (known : isWrapper (segments.getLastD "") = true) :
    ∃ path : WrapperPath, path.segments = segments := by
  rcases List.eq_nil_or_concat segments with rfl | ⟨scopes, name, rfl⟩
  · exact absurd known (by decide)
  · rw [List.concat_eq_append] at known ⊢
    rw [List.getLastD_concat] at known
    exact ⟨⟨scopes, name, known⟩, rfl⟩

mutual

theorem layers_of_type (type : TypeExpr) :
    ∃ layers element, wrapped layers element = type ∧ element.IsElement := by
  match type with
  | .named segments => exact ⟨[], .named segments, rfl, trivial⟩
  | .applied segments arguments =>
      by_cases known : isWrapper (segments.getLastD "") = true
      · rcases layers_of_arguments arguments with untyped |
          ⟨lifetimes, layers, element, behind, rfl, bare⟩
        · exact ⟨[], .applied segments arguments, rfl, fun _ => untyped⟩
        · obtain ⟨path, rfl⟩ := wrapper_path segments known
          exact ⟨.wrapper path lifetimes behind :: layers, element, rfl, bare⟩
      · exact ⟨[], .applied segments arguments, rfl, fun wrapper => absurd wrapper known⟩
  | .reference life isMutable target =>
      obtain ⟨layers, element, rfl, bare⟩ := layers_of_type target
      exact ⟨.reference life isMutable :: layers, element, rfl, bare⟩
  | .slice item =>
      obtain ⟨layers, element, rfl, bare⟩ := layers_of_type item
      exact ⟨.slice :: layers, element, rfl, bare⟩
  | .array item length =>
      obtain ⟨layers, element, rfl, bare⟩ := layers_of_type item
      exact ⟨.array length :: layers, element, rfl, bare⟩
  | .paren inner =>
      obtain ⟨layers, element, rfl, bare⟩ := layers_of_type inner
      exact ⟨.paren :: layers, element, rfl, bare⟩
  | .group inner =>
      obtain ⟨layers, element, rfl, bare⟩ := layers_of_type inner
      exact ⟨.group :: layers, element, rfl, bare⟩
  | .tuple items => exact ⟨[], .tuple items, rfl, trivial⟩
  | .other source => exact ⟨[], .other source, rfl, trivial⟩
termination_by structural type

theorem layers_of_argument (argument : TypeArgument) :
    (∃ name, argument = .lifetime name) ∨
      ∃ layers element, argument = .expr (wrapped layers element) ∧ element.IsElement := by
  match argument with
  | .lifetime name => exact .inl ⟨name, rfl⟩
  | .expr type =>
      obtain ⟨layers, element, rfl, bare⟩ := layers_of_type type
      exact .inr ⟨layers, element, rfl, bare⟩
termination_by structural argument

theorem layers_of_arguments (arguments : List TypeArgument) :
    TypeArgument.lastType? arguments = none ∨
      ∃ (lifetimes : List String) (layers : List TypeLayer) (element : TypeExpr)
        (behind : List TypeArgument),
      arguments = lifetimes.map .lifetime ++ .expr (wrapped layers element) :: behind ∧
        element.IsElement := by
  match arguments with
  | [] => exact .inl rfl
  | argument :: rest =>
      rcases layers_of_argument argument with ⟨name, rfl⟩ | ⟨layers, element, rfl, bare⟩
      · rcases layers_of_arguments rest with untyped | ⟨lifetimes, layers, element, behind, rfl, bare⟩
        · left
          rw [last_type_cons, untyped]
          rfl
        · exact .inr ⟨name :: lifetimes, layers, element, behind, rfl, bare⟩
      · exact .inr ⟨[], layers, element, rest, rfl, bare⟩
termination_by structural arguments

end

theorem wrapped_type_reads_element_iff (isRelation : Bool) (type : TypeExpr) :
    (∃ layers element, wrapped layers element = type ∧ element.IsElement) ∧
    ∀ layers element, wrapped layers element = type → element.IsElement →
      (∀ leaf, element.fieldType isRelation = .ok leaf → IsLeaf isRelation leaf) ∧
      (type.fieldType isRelation = (element.fieldType isRelation).map (layered layers) ↔
        ∀ outer layer inner last, Diverted layers outer layer inner last →
          last.fieldType isRelation = (element.fieldType isRelation).map (layered inner)) ∧
      ∀ outer layer inner last, Diverted layers outer layer inner last →
        type.fieldType isRelation =
          (last.fieldType isRelation).map (layered (outer ++ [layer])) := by
  refine ⟨layers_of_type type, ?_⟩
  rintro layers element rfl bare
  refine ⟨?_, element_read_iff isRelation layers element, ?_⟩
  · intro leaf read
    exact element_reads_leaf isRelation element leaf bare read
  · intro outer layer inner last diverted
    exact read_diverted isRelation layers outer layer inner last element diverted

def tagType : TypeExpr := .named ["Tag"]

def tagCopies : TypeExpr :=
  .reference (some "'a") false (.applied ["std", "vec", "Vec"]
    [.expr (.applied ["Cow"] [.lifetime "'b", .expr tagType])])

def tagCopyLayers : List TypeLayer :=
  [.reference (some "'a") false, .wrapper ⟨["std", "vec"], "Vec", rfl⟩ [] [],
    .wrapper ⟨[], "Cow", rfl⟩ ["'b"] []]

theorem tag_copies_read :
    wrapped tagCopyLayers tagType = tagCopies ∧ tagType.IsElement ∧
      tagCopies.fieldType true = .ok (.pointer (.list (.pointer (.entity ⟨"Tag", "Tag"⟩)))) ∧
      tagCopies.fieldType false = .ok (.pointer (.list (.pointer (.struct "Tag")))) := by
  have alone : ∀ layer ∈ tagCopyLayers, layer.further? = none := by decide
  have read : ∀ isRelation, tagCopies.fieldType isRelation =
      (tagType.fieldType isRelation).map (layered tagCopyLayers) := by
    intro isRelation
    obtain ⟨_, reads⟩ := wrapped_type_reads_element_iff isRelation tagCopies
    obtain ⟨_, exactly, _⟩ := reads tagCopyLayers tagType rfl trivial
    apply exactly.mpr
    intro outer layer inner last diverted
    exact (diverted_not_alone tagCopyLayers outer layer inner last diverted alone).elim
  exact ⟨rfl, trivial, (read true).trans rfl, (read false).trans rfl⟩

def vectorIn (allocator : String) : TypeLayer :=
  .wrapper ⟨[], "Vec", rfl⟩ [] [.expr (.named [allocator])]

-- The relation goes to the allocator, even around a scalar that can be no relation.
theorem allocator_read_for_element :
    wrapped [vectorIn "Alloc"] tagType =
        .applied ["Vec"] [.expr tagType, .expr (.named ["Alloc"])] ∧
      (wrapped [vectorIn "Alloc"] tagType).fieldType true =
        .ok (.list (.entity ⟨"Alloc", "Alloc"⟩)) ∧
      (tagType.fieldType true).map (layered [vectorIn "Alloc"]) =
        .ok (.list (.entity ⟨"Tag", "Tag"⟩)) ∧
      (wrapped [vectorIn "Alloc"] tagType).fieldType false = .ok (.list (.struct "Alloc")) ∧
      (tagType.fieldType false).map (layered [vectorIn "Alloc"]) = .ok (.list (.struct "Tag")) ∧
      (wrapped [vectorIn "Alloc"] (.named ["i64"])).fieldType true =
        .ok (.list (.entity ⟨"Alloc", "Alloc"⟩)) ∧
      ((TypeExpr.named ["i64"]).fieldType true).map (layered [vectorIn "Alloc"]) =
        .error .scalarRelation :=
  ⟨rfl, rfl, rfl, rfl, rfl, rfl, rfl⟩

end NestedFilter
