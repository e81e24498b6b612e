import Mathlib.Logic.Relation
import NestedFilter.Proofs.Diagnosis

/-!
What decides on the classification of a field: the entity under the layers of its type, whether the
first layer that is no pointer is a list, and its annotations. Other layers do not count.
-/

set_option autoImplicit false

namespace NestedFilter

inductive RefersTo (ref : EntityRef) : FieldType → Prop where
  | leaf : RefersTo ref (.entity ref)
  | pointer (inner : FieldType) (refers : RefersTo ref inner) : RefersTo ref (.pointer inner)
  | list (inner : FieldType) (refers : RefersTo ref inner) : RefersTo ref (.list inner)

inductive OpensList : FieldType → Prop where
  | list (inner : FieldType) : OpensList (.list inner)
  | pointer (inner : FieldType) (opens : OpensList inner) : OpensList (.pointer inner)

theorem refers_to_iff (ref : EntityRef) (fieldType : FieldType) :
    RefersTo ref fieldType ↔ fieldType.entityRef? = some ref := by
  induction fieldType with
  | scalar name | struct name =>
      constructor
      · intro refers
        cases refers
      · intro found
        cases found
  | entity other =>
      constructor
      · intro refers
        cases refers
        rfl
      · intro found
        cases found
        exact .leaf
  | pointer inner ih =>
      have through : (FieldType.pointer inner).entityRef? = inner.entityRef? := rfl
      rw [through, ← ih]
      constructor
      · intro refers
        cases refers with
        | pointer _ inside => exact inside
      · exact .pointer inner
  | list inner ih =>
      have through : (FieldType.list inner).entityRef? = inner.entityRef? := rfl
      rw [through, ← ih]
      constructor
      · intro refers
        cases refers with
        | list _ inside => exact inside
      · exact .list inner

theorem referring_struct (ref : EntityRef) (fieldType : FieldType)
    (refers : RefersTo ref fieldType) : fieldType.isStructLike = true := by
  induction refers with
  | leaf => rfl
  | pointer _ _ ih => exact ih
  | list _ _ ih => exact ih

theorem referring_shape (ref : EntityRef) (fieldType : FieldType)
    (refers : RefersTo ref fieldType) :
    fieldType.shape? = some .collection ∧ OpensList fieldType ∨
      fieldType.shape? = some .single ∧ ¬ OpensList fieldType := by
  -- By induction on the layers: a pointer hands on what it holds, and at a list the search ends.
  induction refers with
  | leaf => exact .inr ⟨rfl, nofun⟩
  | pointer inner _ ih =>
      rcases ih with ⟨shaped, opens⟩ | ⟨shaped, closed⟩
      · exact .inl ⟨shaped, .pointer inner opens⟩
      · refine .inr ⟨shaped, ?_⟩
        intro opens
        cases opens with
        | pointer _ inside => exact closed inside
  | list inner refers _ =>
      have struct : (FieldType.list inner).isStructLike = true :=
        referring_struct ref (.list inner) (.list inner refers)
      refine .inl ⟨?_, .list inner⟩
      rw [FieldType.shape?, if_pos struct]
      rfl

theorem decided_by_key_iff (annotations : RelationAnnotations) (key : String) :
    annotations.deciding? = some (.foreignKey, key) ↔ annotations.foreignKey = some key := by
  obtain ⟨foreignKey, manyToMany⟩ := annotations
  cases foreignKey <;> cases manyToMany <;> simp [RelationAnnotations.deciding?]

theorem decided_by_table_iff (annotations : RelationAnnotations) (table : String) :
    annotations.deciding? = some (.manyToMany, table) ↔
      annotations.foreignKey = none ∧ annotations.manyToMany = some table := by
  obtain ⟨foreignKey, manyToMany⟩ := annotations
  cases foreignKey <;> cases manyToMany <;> simp [RelationAnnotations.deciding?]

section

variable (registry : Registry) (naming : NamingStrategy) (owner : EntitySchema) (field : FieldDef)

inductive Settles (ref : EntityRef) : Relation → Prop where
  | toOne (key : String) (keyed : field.annotations.foreignKey = some key)
      (written : Text.isBlank key = false) (single : ¬ OpensList field.fieldType) :
      Settles ref ⟨ref, naming.keyColumn owner key, .toOne⟩
  | toMany (key : String) (keyed : field.annotations.foreignKey = some key)
      (written : Text.isBlank key = false) (many : OpensList field.fieldType) :
      Settles ref ⟨ref, naming.keyColumn (registry.resolve ref) key, .toMany⟩
  | manyToMany (table : String) (junction : Junction)
      (unkeyed : field.annotations.foreignKey = none)
      (linked : field.annotations.manyToMany = some table) (written : Text.isBlank table = false)
      (named : junction = ⟨naming.joinTableName table, naming.foreignKeyName ref.name,
        naming.foreignKeyName owner.name⟩) :
      Settles ref ⟨ref, junction.relatedKey, .manyToMany junction⟩

theorem classify_unreferring (unrelated : field.fieldType.entityRef? = none) :
    classify registry naming owner field =
      .error (.unclassifiableRelation owner.name field.name) := by
  unfold classify
  rw [unrelated]
  cases field.fieldType.shape? <;> rfl

theorem classify_referring (shape : FieldShape) (ref : EntityRef)
    (shaped : field.fieldType.shape? = some shape)
    (found : field.fieldType.entityRef? = some ref) :
    classify registry naming owner field =
      match field.annotations.deciding? with
      | none => .error (.unclassifiableRelation owner.name field.name)
      | some (key, text) =>
          if Text.isBlank text then .error (.emptyAnnotationValue owner.name field.name key)
          else .ok (match key with
            | .foreignKey => keyRelation registry naming owner ref text shape
            | .manyToMany => junctionRelation naming owner ref text) := by
  unfold classify RelationAnnotations.deciding?
  rw [shaped, found]
  cases field.annotations.foreignKey with
  | some key => rfl
  | none => cases field.annotations.manyToMany <;> rfl

theorem settled_deciding (ref : EntityRef) (relation : Relation)
    (settles : Settles registry naming owner field ref relation) :
    ∃ key text, field.annotations.deciding? = some (key, text) ∧ Text.isBlank text = false := by
  cases settles with
  | toOne key keyed written => exact ⟨_, key, (decided_by_key_iff _ key).mpr keyed, written⟩
  | toMany key keyed written => exact ⟨_, key, (decided_by_key_iff _ key).mpr keyed, written⟩
  | manyToMany table _ unkeyed linked written =>
      exact ⟨_, table, (decided_by_table_iff _ table).mpr ⟨unkeyed, linked⟩, written⟩

theorem deciding_settles (ref : EntityRef) (key : AnnotationKey) (text : String)
    (decides : field.annotations.deciding? = some (key, text))
    (written : Text.isBlank text = false) :
    ∃ relation, Settles registry naming owner field ref relation := by
  cases key with
  | foreignKey =>
      have keyed := (decided_by_key_iff field.annotations text).mp decides
      by_cases opens : OpensList field.fieldType
      · exact ⟨_, .toMany text keyed written opens⟩
      · exact ⟨_, .toOne text keyed written opens⟩
  | manyToMany =>
      obtain ⟨unkeyed, linked⟩ := (decided_by_table_iff field.annotations text).mp decides
      exact ⟨_, .manyToMany text _ unkeyed linked written rfl⟩

theorem settled_classifies (ref : EntityRef) (relation : Relation)
    (refers : RefersTo ref field.fieldType)
    (settles : Settles registry naming owner field ref relation) :
    classify registry naming owner field = .ok relation := by
  have found := (refers_to_iff ref field.fieldType).mp refers
  have shape := referring_shape ref field.fieldType refers
  cases settles with
  | toOne key keyed written single =>
      obtain ⟨shaped, _⟩ := shape.resolve_left fun collection => single collection.2
      rw [classify_referring registry naming owner field _ ref shaped found,
        (decided_by_key_iff field.annotations key).mpr keyed]
      simp only [written, Bool.false_eq_true, if_false, keyRelation]
  | toMany key keyed written many =>
      obtain ⟨shaped, _⟩ := shape.resolve_right fun single => single.2 many
      rw [classify_referring registry naming owner field _ ref shaped found,
        (decided_by_key_iff field.annotations key).mpr keyed]
      simp only [written, Bool.false_eq_true, if_false, keyRelation]
  | manyToMany table junction unkeyed linked written named =>
      have decides := (decided_by_table_iff field.annotations table).mpr ⟨unkeyed, linked⟩
      subst named
      rcases shape with ⟨shaped, _⟩ | ⟨shaped, _⟩
      all_goals
        rw [classify_referring registry naming owner field _ ref shaped found, decides]
        simp only [written, Bool.false_eq_true, if_false, junctionRelation]

theorem classify_cases :
    (∃ ref relation, RefersTo ref field.fieldType ∧
      Settles registry naming owner field ref relation ∧
      classify registry naming owner field = .ok relation) ∨
    (∃ ref key text, RefersTo ref field.fieldType ∧
      field.annotations.deciding? = some (key, text) ∧ Text.isBlank text = true ∧
      classify registry naming owner field =
        .error (.emptyAnnotationValue owner.name field.name key)) ∨
    ((∀ ref, RefersTo ref field.fieldType → field.annotations.deciding? = none) ∧
      classify registry naming owner field =
        .error (.unclassifiableRelation owner.name field.name)) := by
  cases found : field.fieldType.entityRef? with
  | none =>
      refine .inr (.inr ⟨?_, classify_unreferring registry naming owner field found⟩)
      intro ref refers
      cases found.symm.trans ((refers_to_iff ref field.fieldType).mp refers)
  | some ref =>
      have refers := (refers_to_iff ref field.fieldType).mpr found
      obtain ⟨shape, shaped⟩ : ∃ shape, field.fieldType.shape? = some shape := by
        rcases referring_shape ref field.fieldType refers with ⟨shaped, _⟩ | ⟨shaped, _⟩
        · exact ⟨_, shaped⟩
        · exact ⟨_, shaped⟩
      have classified := classify_referring registry naming owner field shape ref shaped found
      cases decides : field.annotations.deciding? with
      | none =>
          rw [decides] at classified
          exact .inr (.inr ⟨fun _ _ => rfl, classified⟩)
      | some decision =>
          obtain ⟨key, text⟩ := decision
          cases blank : Text.isBlank text with
          | true =>
              rw [decides] at classified
              simp only [blank, if_true] at classified
              exact .inr (.inl ⟨ref, key, text, refers, rfl, blank, classified⟩)
          | false =>
              obtain ⟨relation, settles⟩ :=
                deciding_settles registry naming owner field ref key text decides blank
              exact .inl ⟨ref, relation, refers, settles,
                settled_classifies registry naming owner field ref relation refers settles⟩

theorem classify_ok_iff (relation : Relation) :
    classify registry naming owner field = .ok relation ↔
      ∃ ref, RefersTo ref field.fieldType ∧
        Settles registry naming owner field ref relation := by
  constructor
  · intro classified
    rcases classify_cases registry naming owner field with ⟨ref, found, refers, settles, same⟩ |
      ⟨_, _, _, _, _, _, failed⟩ | ⟨_, failed⟩
    · cases classified.symm.trans same
      exact ⟨ref, refers, settles⟩
    · cases classified.symm.trans failed
    · cases classified.symm.trans failed
  · rintro ⟨ref, refers, settles⟩
    exact settled_classifies registry naming owner field ref relation refers settles

theorem classify_succeeds_iff :
    (∃ relation, classify registry naming owner field = .ok relation) ↔
      (∃ ref, RefersTo ref field.fieldType) ∧
        ((∃ key, field.annotations.foreignKey = some key ∧ Text.isBlank key = false) ∨
          field.annotations.foreignKey = none ∧
            ∃ table, field.annotations.manyToMany = some table ∧
              Text.isBlank table = false) := by
  simp only [classify_ok_iff]
  constructor
  · rintro ⟨_, ref, refers, settles⟩
    refine ⟨⟨ref, refers⟩, ?_⟩
    cases settles with
    | toOne key keyed written => exact .inl ⟨key, keyed, written⟩
    | toMany key keyed written => exact .inl ⟨key, keyed, written⟩
    | manyToMany table _ unkeyed linked written => exact .inr ⟨unkeyed, table, linked, written⟩
  · rintro ⟨⟨ref, refers⟩, ⟨key, keyed, written⟩ | ⟨unkeyed, table, linked, written⟩⟩
    · have decides := (decided_by_key_iff field.annotations key).mpr keyed
      obtain ⟨relation, settles⟩ :=
        deciding_settles registry naming owner field ref _ key decides written
      exact ⟨relation, ref, refers, settles⟩
    · have decides := (decided_by_table_iff field.annotations table).mpr ⟨unkeyed, linked⟩
      obtain ⟨relation, settles⟩ :=
        deciding_settles registry naming owner field ref _ table decides written
      exact ⟨relation, ref, refers, settles⟩

theorem classify_blank_iff (key : AnnotationKey) :
    classify registry naming owner field =
        .error (.emptyAnnotationValue owner.name field.name key) ↔
      (∃ ref, RefersTo ref field.fieldType) ∧
        ∃ text, field.annotations.deciding? = some (key, text) ∧ Text.isBlank text = true := by
  rcases classify_cases registry naming owner field with
    ⟨ref, relation, refers, settles, classified⟩ |
    ⟨ref, other, text, refers, decides, blank, failed⟩ | ⟨undecided, failed⟩
  · obtain ⟨other, text, decides, written⟩ :=
      settled_deciding registry naming owner field ref relation settles
    rw [classified, decides]
    simp [written]
  · rw [failed, decides]
    constructor
    · intro same
      cases same
      exact ⟨⟨ref, refers⟩, text, rfl, blank⟩
    · rintro ⟨_, _, same, _⟩
      cases same
      rfl
  · rw [failed]
    constructor
    · intro same
      cases same
    · rintro ⟨⟨ref, refers⟩, text, decides, _⟩
      cases (undecided ref refers).symm.trans decides

end

-- A layer more, below a list: nothing counts there but the leaf.
inductive Deeper : FieldType → FieldType → Prop where
  | pointer (whole : FieldType) : Deeper whole (.pointer whole)
  | list (whole : FieldType) : Deeper whole (.list whole)
  | inPointer (inner other : FieldType) (deeper : Deeper inner other) :
      Deeper (.pointer inner) (.pointer other)
  | inList (inner other : FieldType) (deeper : Deeper inner other) :
      Deeper (.list inner) (.list other)

-- A pointer more anywhere, or any layer more below the first list.
inductive Padded : FieldType → FieldType → Prop where
  | pointer (whole : FieldType) : Padded whole (.pointer whole)
  | inPointer (inner other : FieldType) (padded : Padded inner other) :
      Padded (.pointer inner) (.pointer other)
  | inList (inner other : FieldType) (deeper : Deeper inner other) :
      Padded (.list inner) (.list other)

theorem deeper_element (inner other : FieldType) (deeper : Deeper inner other) :
    inner.element = other.element := by
  induction deeper with
  | pointer | list => rfl
  | inPointer _ _ _ ih => exact ih
  | inList _ _ _ ih => exact ih

theorem padded_element (inner other : FieldType) (padded : Padded inner other) :
    inner.element = other.element := by
  induction padded with
  | pointer => rfl
  | inPointer _ _ _ ih => exact ih
  | inList inner other deeper => exact deeper_element inner other deeper

theorem padded_shape (inner other : FieldType) (padded : Padded inner other) :
    inner.shape? = other.shape? := by
  induction padded with
  | pointer => rfl
  | inPointer _ _ _ ih => exact ih
  | inList inner other deeper =>
      have same := deeper_element (.list inner) (.list other) (.inList inner other deeper)
      have struct : (FieldType.list inner).isStructLike = (FieldType.list other).isStructLike := by
        rw [FieldType.isStructLike, FieldType.isStructLike, same]
      rw [FieldType.shape?, FieldType.shape?, struct]
      rfl

section

variable (registry : Registry) (naming : NamingStrategy) (owner : EntitySchema) (field : FieldDef)

theorem classify_padded (fieldType other : FieldType) (padded : Padded fieldType other) :
    classify registry naming owner { field with fieldType := fieldType } =
      classify registry naming owner { field with fieldType := other } := by
  simp only [classify, padded_shape fieldType other padded, FieldType.entityRef?,
    padded_element fieldType other padded]

theorem classify_repadded (fieldType other : FieldType)
    (repadded : Relation.EqvGen Padded fieldType other) :
    classify registry naming owner { field with fieldType := fieldType } =
      classify registry naming owner { field with fieldType := other } := by
  induction repadded with
  | rel fieldType other padded => exact classify_padded registry naming owner field _ _ padded
  | refl => rfl
  | symm _ _ _ ih => exact ih.symm
  | trans _ _ _ _ _ first second => exact first.trans second

end

theorem classification_is_decided (registry : Registry) (naming : NamingStrategy)
    (owner : EntitySchema) (field : FieldDef) :
    ((∃ relation, classify registry naming owner field = .ok relation) ↔
      (∃ ref, RefersTo ref field.fieldType) ∧
        ((∃ key, field.annotations.foreignKey = some key ∧ Text.isBlank key = false) ∨
          field.annotations.foreignKey = none ∧
            ∃ table, field.annotations.manyToMany = some table ∧ Text.isBlank table = false)) ∧
    (∀ relation, classify registry naming owner field = .ok relation ↔
      ∃ ref, RefersTo ref field.fieldType ∧ Settles registry naming owner field ref relation) ∧
    (∀ key, classify registry naming owner field =
        .error (.emptyAnnotationValue owner.name field.name key) ↔
      (∃ ref, RefersTo ref field.fieldType) ∧
        ∃ text, field.annotations.deciding? = some (key, text) ∧ Text.isBlank text = true) ∧
    (∀ error, classify registry naming owner field = .error error →
      (∃ key, error = .emptyAnnotationValue owner.name field.name key) ∨
        error = .unclassifiableRelation owner.name field.name) ∧
    ∀ other, Relation.EqvGen Padded field.fieldType other →
      classify registry naming owner { field with fieldType := other } =
        classify registry naming owner field := by
  refine ⟨classify_succeeds_iff registry naming owner field,
    classify_ok_iff registry naming owner field, classify_blank_iff registry naming owner field,
    ?_, ?_⟩
  · intro error failed
    rcases classify_cases registry naming owner field with ⟨_, _, _, _, classified⟩ |
      ⟨_, key, _, _, _, _, same⟩ | ⟨_, same⟩
    · cases failed.symm.trans classified
    · cases failed.symm.trans same
      exact .inl ⟨key, rfl⟩
    · cases failed.symm.trans same
      exact .inr rfl
  · intro other repadded
    exact (classify_repadded registry naming owner field field.fieldType other repadded).symm

def nestedTags : FieldDef where
  name := "tags"
  fieldType := .pointer (.list (.entity ⟨"Tag", "Tag"⟩))
  annotations := { foreignKey := some "owner_ref", manyToMany := some " " }

theorem nested_tags_decided :
    Relation.EqvGen Padded nestedTags.fieldType
        (.list (.pointer (.list (.entity ⟨"Tag", "Tag"⟩)))) ∧
      classify peopleRegistry verbatim personSchema
          { nestedTags with fieldType := .list (.pointer (.list (.entity ⟨"Tag", "Tag"⟩))) } =
        .ok ⟨⟨"Tag", "Tag"⟩, "owner_ref", .toMany⟩ ∧
      classify peopleRegistry verbatim personSchema
          { nestedTags with annotations := { manyToMany := some " " } } =
        .error (.emptyAnnotationValue "Person" "tags" .manyToMany) := by
  have unwrapped : Relation.EqvGen Padded nestedTags.fieldType
      (.list (.entity ⟨"Tag", "Tag"⟩)) := .symm _ _ (.rel _ _ (.pointer _))
  have wrapped : Relation.EqvGen Padded nestedTags.fieldType
      (.list (.pointer (.list (.entity ⟨"Tag", "Tag"⟩)))) :=
    .trans _ _ _ (.trans _ _ _ unwrapped (.rel _ _ (.inList _ _ (.list _))))
      (.rel _ _ (.inList _ _ (.pointer _)))
  have refers : RefersTo ⟨"Tag", "Tag"⟩ nestedTags.fieldType := .pointer _ (.list _ .leaf)
  obtain ⟨_, related, _, _, same⟩ :=
    classification_is_decided peopleRegistry verbatim personSchema nestedTags
  have classified := (related _).mpr ⟨_, refers,
    .toMany "owner_ref" rfl (by decide) (.pointer _ (.list _))⟩
  obtain ⟨_, _, blank, _, _⟩ := classification_is_decided peopleRegistry verbatim personSchema
    { nestedTags with annotations := { manyToMany := some " " } }
  exact ⟨wrapped, (same _ wrapped).trans classified,
    (blank .manyToMany).mpr ⟨⟨_, refers⟩, " ", rfl, by decide⟩⟩

end NestedFilter
