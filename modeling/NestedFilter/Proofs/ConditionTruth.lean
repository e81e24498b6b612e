import NestedFilter.Proofs.Truth
import NestedFilter.Sql.Select

/-!
Conditions under three-valued logic. Groups that ask for all of their members can be flattened: such
a condition holds just when every leaf below these groups holds.
-/

set_option autoImplicit false

namespace NestedFilter.Sql

namespace Truth

def not : Truth → Truth
  | holds => fails
  | fails => holds
  | unknown => unknown

def negateIf (negated : Bool) (value : Truth) : Truth := if negated then value.not else value

end Truth

def Connective.unit : Connective → Truth
  | .all => .holds
  | .any => .fails

def Connective.join : Connective → Truth → Truth → Truth
  | .all => Truth.and
  | .any => Truth.or

section

variable (engine : Engine) (database : Database) (scopes : List Scope)

mutual

def Member.truth : Member → Truth
  | .predicate test => test.truth engine database scopes
  | .group negated connective members =>
      (Member.truthJoined connective members).negateIf negated
termination_by structural member => member

def Member.truthJoined (connective : Connective) : List Member → Truth
  | [] => connective.unit
  | member :: rest => connective.join member.truth (Member.truthJoined connective rest)
termination_by structural members => members

end

def Condition.truth (condition : Condition) : Truth :=
  (Member.truthJoined engine database scopes condition.connective condition.members).negateIf
    condition.negated

end

-- A row is kept when the WHERE clause holds of it; unknown is not enough.
def Select.Keeps (engine : Engine) (database : Database) (statement : Select) (row : Row) : Prop :=
  ∀ condition ∈ statement.filter,
    condition.truth engine database [⟨statement.table, row⟩] = .holds

mutual

def Member.leaves : Member → List Member
  | .group false .all members => Member.leavesOf members
  | leaf => [leaf]
termination_by structural member => member

def Member.leavesOf : List Member → List Member
  | [] => []
  | member :: rest => member.leaves ++ Member.leavesOf rest
termination_by structural members => members

end

def Condition.leaves (condition : Condition) : List Member :=
  (Member.group condition.negated condition.connective condition.members).leaves

def Select.leaves (statement : Select) : List Member :=
  match statement.filter with
  | none => []
  | some condition => condition.leaves

section

variable (engine : Engine) (database : Database) (scopes : List Scope)

mutual

theorem leaves_hold (member : Member) :
    (∀ leaf ∈ member.leaves, leaf.truth engine database scopes = .holds) ↔
      member.truth engine database scopes = .holds := by
  match member with
  | .predicate predicate => simp [Member.leaves]
  | .group true connective members => simp [Member.leaves]
  | .group false .any members => simp [Member.leaves]
  | .group false .all members =>
      rw [Member.leaves, leaves_of_hold members, Member.truth]
      rfl
termination_by structural member

theorem leaves_of_hold (members : List Member) :
    (∀ leaf ∈ Member.leavesOf members, leaf.truth engine database scopes = .holds) ↔
      Member.truthJoined engine database scopes .all members = .holds := by
  match members with
  | [] => simp [Member.leavesOf, Member.truthJoined, Connective.unit]
  | member :: rest =>
      rw [Member.leavesOf, List.forall_mem_append, leaves_hold member, leaves_of_hold rest,
        Member.truthJoined]
      exact (Truth.and_holds _ _).symm
termination_by structural members

end

end

theorem keeps_iff_leaves (engine : Engine) (database : Database) (statement : Select) (row : Row) :
    statement.Keeps engine database row ↔
      ∀ leaf ∈ statement.leaves, leaf.truth engine database [⟨statement.table, row⟩] = .holds := by
  unfold Select.Keeps Select.leaves
  cases statement.filter with
  | none => simp
  | some condition =>
      simp only [Option.mem_def, Option.some.injEq, forall_eq']
      rw [Condition.leaves, leaves_hold, Member.truth, Condition.truth]

theorem predicate_leaves (predicates : List Predicate) :
    Member.leavesOf (predicates.map .predicate) = predicates.map .predicate := by
  induction predicates with
  | nil => rfl
  | cons predicate rest ih =>
      rw [List.map_cons, Member.leavesOf, ih]
      rfl

theorem all_of_leaves (members : List Member) :
    (Condition.allOf members).leaves = Member.leavesOf members := rfl

theorem to_member_leaves (members : List Member) :
    (Condition.allOf members).toMember.leaves = Member.leavesOf members := by
  -- A single member stands without the condition around it, and has the same leaves.
  unfold Condition.toMember Condition.allOf
  split
  · rename_i member _ alone
    obtain rfl : members = [member] := alone
    simp [Member.leavesOf]
  · rw [Member.leaves]

theorem predicates_hold (engine : Engine) (database : Database) (scopes : List Scope)
    (predicates : List Predicate) :
    (∀ leaf ∈ predicates.map Member.predicate, leaf.truth engine database scopes = .holds) ↔
      ∀ predicate ∈ predicates, predicate.truth engine database scopes = .holds := by
  rw [List.forall_mem_map]
  simp only [Member.truth]

namespace Connective

theorem join_assoc (connective : Connective) (a b c : Truth) :
    connective.join (connective.join a b) c = connective.join a (connective.join b c) := by
  cases connective <;> cases a <;> cases b <;> cases c <;> rfl

theorem unit_join (connective : Connective) (a : Truth) :
    connective.join connective.unit a = a := by
  cases connective <;> cases a <;> rfl

theorem join_unit (connective : Connective) (a : Truth) :
    connective.join a connective.unit = a := by
  cases connective <;> cases a <;> rfl

end Connective

section

variable (engine : Engine) (database : Database) (scopes : List Scope)

theorem truth_joined_append (connective : Connective) (members others : List Member) :
    Member.truthJoined engine database scopes connective (members ++ others) =
      connective.join (Member.truthJoined engine database scopes connective members)
        (Member.truthJoined engine database scopes connective others) := by
  induction members with
  | nil => exact (connective.unit_join _).symm
  | cons member rest ih =>
      rw [List.cons_append, Member.truthJoined, Member.truthJoined, ih, connective.join_assoc]

theorem to_member_truth (condition : Condition) :
    condition.toMember.truth engine database scopes = condition.truth engine database scopes := by
  obtain ⟨negated, connective, members⟩ := condition
  unfold Condition.toMember
  split
  · rename_i single positive alone
    obtain rfl : negated = false := positive
    obtain rfl : members = [single] := alone
    simp [Condition.truth, Member.truthJoined, Connective.join_unit, Truth.negateIf]
  · rw [Member.truth, Condition.truth]

theorem plain_all_truth (members : List Member) :
    (Condition.allOf members).truth engine database scopes =
      Member.truthJoined engine database scopes .all members := rfl

theorem plain_all (condition : Condition) (plain : condition.isPlainAll = true) :
    condition = .allOf condition.members := by
  obtain ⟨negated, connective, members⟩ := condition
  cases negated <;> cases connective <;> first | rfl | cases plain

theorem conjoin_truth (current addition : Condition) :
    (current.conjoin addition).truth engine database scopes =
      (current.truth engine database scopes).and (addition.truth engine database scopes) := by
  unfold Condition.conjoin
  split
  · rename_i currentPlain
    rw [plain_all current currentPlain]
    split
    · rename_i additionPlain
      rw [plain_all addition additionPlain]
      exact truth_joined_append engine database scopes .all current.members addition.members
    · have appended := truth_joined_append engine database scopes .all current.members
        [addition.toMember]
      rw [Member.truthJoined, Member.truthJoined, Connective.join_unit, to_member_truth] at appended
      exact appended
  · rw [plain_all_truth, Member.truthJoined, Member.truthJoined, Member.truthJoined,
      Connective.join_unit, to_member_truth, to_member_truth]
    rfl

theorem of_predicates_hold (predicates : List Predicate) :
    (Condition.ofPredicates predicates).truth engine database scopes = .holds ↔
      ∀ predicate ∈ predicates, predicate.truth engine database scopes = .holds := by
  rw [Condition.ofPredicates, plain_all_truth, ← leaves_of_hold, predicate_leaves, predicates_hold]

end

end NestedFilter.Sql
