import NestedFilter.Proofs.Outcome
import NestedFilter.Proofs.Reach
import NestedFilter.Query.SelectQuery

/-!
What a sequence of builder calls comes to. Calls of one kind are read apart from all others: some
overwrite, some add up, and of the plugins the first one of each name stays. So calls of different
kinds may change places.
-/

set_option autoImplicit false

namespace NestedFilter

open Sql (Direction Select qualified)

namespace BuilderCall

def naming? : BuilderCall → Option NamingStrategy
  | .withNaming naming => some naming
  | _ => none

def plugin? : BuilderCall → Option Plugin
  | .usePlugin plugin => some plugin
  | _ => none

def clause? : BuilderCall → Option Clause
  | .filter condition => some (.condition condition)
  | .whereMap mapping => some (.ofFilter mapping)
  | _ => none

def order? : BuilderCall → Option (String × Direction)
  | .orderBy column direction => some (column, direction)
  | _ => none

def limit? : BuilderCall → Option Nat
  | .limit count => some count
  | _ => none

def offset? : BuilderCall → Option Nat
  | .offset count => some count
  | _ => none

end BuilderCall

def firstOfEachName : List Plugin → List Plugin
  | [] => []
  | plugin :: rest =>
      plugin :: (firstOfEachName rest).filter (fun other => other.name != plugin.name)

def FirstOfName (registered : List Plugin) (plugin : Plugin) : Prop :=
  ∃ before after, registered = before ++ plugin :: after ∧
    ∀ earlier ∈ before, earlier.name ≠ plugin.name

theorem first_of_each_name_sublist (registered : List Plugin) :
    (firstOfEachName registered).Sublist registered := by
  induction registered with
  | nil => exact .slnil
  | cons plugin rest ih => exact .cons_cons plugin (List.filter_sublist.trans ih)

theorem first_of_each_name_distinct (registered : List Plugin) :
    ((firstOfEachName registered).map (·.name)).Nodup := by
  induction registered with
  | nil => exact .nil
  | cons plugin rest ih =>
      have others : ((firstOfEachName rest).filter
          (fun other => other.name != plugin.name)).map (·.name) |>.Nodup :=
        (List.filter_sublist.map _).nodup ih
      rw [firstOfEachName, List.map_cons, List.nodup_cons]
      refine ⟨?_, others⟩
      intro listed
      obtain ⟨other, kept, same⟩ := List.mem_map.mp listed
      have different := (List.mem_filter.mp kept).2
      simp [same] at different

theorem first_of_name_cons_iff (first plugin : Plugin) (rest : List Plugin) :
    FirstOfName (first :: rest) plugin ↔
      plugin = first ∨ plugin.name ≠ first.name ∧ FirstOfName rest plugin := by
  constructor
  · intro registered
    obtain ⟨before, after, split, free⟩ := registered
    cases before with
    | nil =>
        cases split
        exact .inl rfl
    | cons earlier others =>
        cases split
        have different := free first List.mem_cons_self
        exact .inr ⟨different.symm, others, after, rfl,
          fun other member => free other (List.mem_cons_of_mem first member)⟩
  · intro either
    rcases either with rfl | ⟨different, before, after, rfl, free⟩
    · exact ⟨[], rest, rfl, by simp⟩
    · exact ⟨first :: before, after, rfl, List.forall_mem_cons.mpr ⟨different.symm, free⟩⟩

theorem mem_first_of_each_name (registered : List Plugin) (plugin : Plugin) :
    plugin ∈ firstOfEachName registered ↔ FirstOfName registered plugin := by
  induction registered with
  | nil => simp [firstOfEachName, FirstOfName]
  | cons first rest ih =>
      rw [firstOfEachName, first_of_name_cons_iff, List.mem_cons, List.mem_filter, ih]
      simp [and_comm]

def register (present : List Plugin) (plugin : Plugin) : List Plugin :=
  if present.any (fun other => other.name == plugin.name) then present else present ++ [plugin]

theorem registered_in_turn (registered present : List Plugin) :
    registered.foldl register present =
      present ++ (firstOfEachName registered).filter
        (fun plugin => !present.any (fun other => other.name == plugin.name)) := by
  -- By induction on the plugins still to be registered; those of a taken name are lost on both
  -- sides.
  induction registered generalizing present with
  | nil => simp [firstOfEachName]
  | cons plugin rest ih =>
      rw [List.foldl_cons, ih, firstOfEachName, List.filter_cons, List.filter_filter]
      by_cases taken : present.any (fun other => other.name == plugin.name) = true
      · have known : register present plugin = present := by simp [register, taken]
        rw [known, taken]
        simp only [Bool.not_true, Bool.false_eq_true, if_false]
        congr 1
        apply List.filter_congr
        intro other _
        by_cases same : other.name = plugin.name
        · simp [same, taken]
        · simp [same]
      · have fresh : register present plugin = present ++ [plugin] := by simp [register, taken]
        have free : present.any (fun other => other.name == plugin.name) = false := by
          simpa using taken
        rw [fresh, free, List.append_assoc]
        simp only [Bool.not_false, if_true, List.singleton_append]
        congr 2
        apply List.filter_congr
        intro other _
        simp only [List.any_append, List.any_cons, List.any_nil, Bool.or_false, Bool.not_or]
        rw [bne, BEq.comm]

section

variable {α β : Type}

theorem filter_map_first (f : α → Option β) (a : α) (rest : List α) :
    (a :: rest).filterMap f = (f a).toList ++ rest.filterMap f := by
  cases read : f a <;> simp [read]

theorem last_of_kind (first : Option α) (rest : List α) (default : α) :
    (first.toList ++ rest).getLastD default = rest.getLastD (first.getD default) := by
  cases first with
  | none => rfl
  | some a => rw [Option.toList_some, List.singleton_append, List.getLastD_cons]; rfl

theorem last_of_option (first : Option α) : first.toList.getLast? = first := by
  cases first <;> rfl

end

namespace SelectQuery

def gathered (calls : List BuilderCall) : SelectQuery where
  naming := (calls.filterMap BuilderCall.naming?).getLastD ({} : SnakeCaseNaming).strategy
  plugins := firstOfEachName (calls.filterMap BuilderCall.plugin?)
  clauses := calls.filterMap BuilderCall.clause?
  orders := calls.filterMap BuilderCall.order?
  limit := (calls.filterMap BuilderCall.limit?).getLast?
  offset := (calls.filterMap BuilderCall.offset?).getLast?

theorem call_eq (query : SelectQuery) (next : BuilderCall) :
    query.call next = {
      naming := next.naming?.getD query.naming
      plugins := next.plugin?.toList.foldl register query.plugins
      clauses := query.clauses ++ next.clause?.toList
      orders := query.orders ++ next.order?.toList
      limit := next.limit?.or query.limit
      offset := next.offset?.or query.offset } := by
  cases next with
  | usePlugin plugin =>
      by_cases known : query.hasPlugin plugin.name = true
      · have taken := known
        rw [hasPlugin] at taken
        simp [call, known, register, taken, BuilderCall.naming?, BuilderCall.plugin?,
          BuilderCall.clause?, BuilderCall.order?, BuilderCall.limit?, BuilderCall.offset?]
      · have free := known
        rw [hasPlugin] at free
        simp [call, known, register, free, BuilderCall.naming?, BuilderCall.plugin?,
          BuilderCall.clause?, BuilderCall.order?, BuilderCall.limit?, BuilderCall.offset?]
  | _ =>
      simp [call, BuilderCall.naming?, BuilderCall.plugin?, BuilderCall.clause?,
        BuilderCall.order?, BuilderCall.limit?, BuilderCall.offset?]

theorem calls_eq (query : SelectQuery) (calls : List BuilderCall) :
    calls.foldl call query = {
      naming := (calls.filterMap BuilderCall.naming?).getLastD query.naming
      plugins := (calls.filterMap BuilderCall.plugin?).foldl register query.plugins
      clauses := query.clauses ++ calls.filterMap BuilderCall.clause?
      orders := query.orders ++ calls.filterMap BuilderCall.order?
      limit := (calls.filterMap BuilderCall.limit?).getLast?.or query.limit
      offset := (calls.filterMap BuilderCall.offset?).getLast?.or query.offset } := by
  induction calls generalizing query with
  | nil => simp
  | cons next rest ih =>
      rw [List.foldl_cons, ih, call_eq]
      simp only [filter_map_first, List.foldl_append, List.append_assoc, last_of_kind,
        List.getLast?_append, Option.or_assoc]
      simp only [last_of_option]

theorem of_calls_gathered (calls : List BuilderCall) : ofCalls calls = gathered calls := by
  rw [ofCalls, calls_eq, registered_in_turn]
  simp [gathered]

theorem records_of_plugins (calls : List BuilderCall) (query other : SelectQuery)
    (same : query.plugins = other.plugins) :
    query.records calls =
      other.records ((calls.filterMap BuilderCall.plugin?).map .usePlugin) := by
  induction calls generalizing query other with
  | nil => rfl
  | cons next rest ih =>
      cases next with
      | usePlugin plugin =>
          have after : (query.call (.usePlugin plugin)).plugins =
              (other.call (.usePlugin plugin)).plugins := by
            rw [call_eq, call_eq, same]
          have report : query.callRecords (.usePlugin plugin) =
              other.callRecords (.usePlugin plugin) := by
            simp [callRecords, hasPlugin, same]
          have later := ih (query.call (.usePlugin plugin)) (other.call (.usePlugin plugin)) after
          simp only [records, report, later, List.filterMap_cons, BuilderCall.plugin?, List.map_cons]
      | _ => exact ih _ other same

end SelectQuery

structure SameByKind (calls others : List BuilderCall) : Prop where
  naming : calls.filterMap BuilderCall.naming? = others.filterMap BuilderCall.naming?
  plugins : calls.filterMap BuilderCall.plugin? = others.filterMap BuilderCall.plugin?
  clauses : calls.filterMap BuilderCall.clause? = others.filterMap BuilderCall.clause?
  orders : calls.filterMap BuilderCall.order? = others.filterMap BuilderCall.order?
  limit : calls.filterMap BuilderCall.limit? = others.filterMap BuilderCall.limit?
  offset : calls.filterMap BuilderCall.offset? = others.filterMap BuilderCall.offset?

-- Less than that decides on the statement: what is overwritten, and plugins with a taken name,
-- leave nothing.
structure SameChoices (calls others : List BuilderCall) : Prop where
  naming : (calls.filterMap BuilderCall.naming?).getLast? =
    (others.filterMap BuilderCall.naming?).getLast?
  plugins : firstOfEachName (calls.filterMap BuilderCall.plugin?) =
    firstOfEachName (others.filterMap BuilderCall.plugin?)
  clauses : calls.filterMap BuilderCall.clause? = others.filterMap BuilderCall.clause?
  orders : calls.filterMap BuilderCall.order? = others.filterMap BuilderCall.order?
  limit : (calls.filterMap BuilderCall.limit?).getLast? =
    (others.filterMap BuilderCall.limit?).getLast?
  offset : (calls.filterMap BuilderCall.offset?).getLast? =
    (others.filterMap BuilderCall.offset?).getLast?

theorem same_by_kind_choices (calls others : List BuilderCall) (same : SameByKind calls others) :
    SameChoices calls others := by
  obtain ⟨naming, plugins, clauses, orders, limit, offset⟩ := same
  exact ⟨by rw [naming], by rw [plugins], clauses, orders, by rw [limit], by rw [offset]⟩

theorem same_choices_gathered (calls others : List BuilderCall) (same : SameChoices calls others) :
    SelectQuery.gathered calls = SelectQuery.gathered others := by
  obtain ⟨naming, plugins, clauses, orders, limit, offset⟩ := same
  simp only [SelectQuery.gathered, List.getLastD_eq_getLast?, naming, plugins, clauses, orders,
    limit, offset]

namespace SelectQuery

def statementOf (calls : List BuilderCall) (registry : Registry) (schema : EntitySchema) :
    FilterM Select := do
  let query ← (build calls : SessionM SelectQuery)
  query.statement registry schema

end SelectQuery

theorem builder_calls_commute (calls : List BuilderCall) :
    let registered := calls.filterMap BuilderCall.plugin?
    let query := SelectQuery.ofCalls calls
    query = SelectQuery.gathered calls ∧
    (query.plugins.map (·.name)).Nodup ∧ query.plugins.Sublist registered ∧
    (∀ plugin, plugin ∈ query.plugins ↔ FirstOfName registered plugin) ∧
    (∀ others, SameChoices calls others → ∀ registry schema,
      (SelectQuery.ofCalls others).statement registry schema = query.statement registry schema) ∧
    (∀ others, SameByKind calls others → ∀ registry schema,
      SelectQuery.statementOf others registry schema =
        SelectQuery.statementOf calls registry schema) := by
  intro registered query
  have read : query = SelectQuery.gathered calls := SelectQuery.of_calls_gathered calls
  have plugins : query.plugins = firstOfEachName registered := congrArg SelectQuery.plugins read
  refine ⟨read, ?_, ?_, ?_, ?_, ?_⟩
  · rw [plugins]
    exact first_of_each_name_distinct registered
  · rw [plugins]
    exact first_of_each_name_sublist registered
  · intro plugin
    rw [plugins]
    exact mem_first_of_each_name registered plugin
  · intro others same registry schema
    rw [read, SelectQuery.of_calls_gathered others, same_choices_gathered calls others same]
  · intro others same registry schema
    have queries : SelectQuery.ofCalls others = SelectQuery.ofCalls calls := by
      rw [SelectQuery.of_calls_gathered, SelectQuery.of_calls_gathered,
        same_choices_gathered calls others (same_by_kind_choices calls others same)]
    have records : SelectQuery.records {} others = SelectQuery.records {} calls := by
      rw [SelectQuery.records_of_plugins others {} {} rfl,
        SelectQuery.records_of_plugins calls {} {} rfl, same.plugins]
    rw [SelectQuery.statementOf, SelectQuery.statementOf, SelectQuery.build, SelectQuery.build,
      queries, records]

def mentoredByAda : Filter := [("mentor", .object [("name", .string "Ada")])]

def mixedCalls (first second : Plugin) : List BuilderCall :=
  [.limit 3, .usePlugin first, .withNaming ({} : SnakeCaseNaming).strategy,
    .whereMap mentoredByAda, .usePlugin second, .orderBy "name" .ascending, .limit 5,
    .withNaming verbatim]

def sortedCalls (first second : Plugin) : List BuilderCall :=
  [.usePlugin first, .usePlugin second, .whereMap mentoredByAda, .orderBy "name" .ascending,
    .withNaming ({} : SnakeCaseNaming).strategy, .withNaming verbatim, .limit 3, .limit 5]

theorem mixed_same_by_kind (first second : Plugin) :
    SameByKind (mixedCalls first second) (sortedCalls first second) := by
  have mixed : (mixedCalls first second).filterMap BuilderCall.plugin? = [first, second] := rfl
  have sorted : (sortedCalls first second).filterMap BuilderCall.plugin? = [first, second] := rfl
  exact ⟨rfl, mixed.trans sorted.symm, rfl, rfl, rfl, rfl⟩

theorem mixed_calls_build_alike :
    let mixed := mixedCalls (DeepFilter.plugin {}) (DeepFilter.plugin { wildcards := true })
    let sorted := sortedCalls (DeepFilter.plugin {}) (DeepFilter.plugin { wildcards := true })
    SameByKind mixed sorted ∧ SameChoices mixed sorted ∧
      ((SelectQuery.ofCalls mixed).plugins.map (·.name)).Nodup ∧
      (SelectQuery.ofCalls sorted).plugins.map (·.name) = ["deepfilter"] ∧
      ((SelectQuery.ofCalls sorted).statement peopleRegistry personSchema).outcome {} =
        ((SelectQuery.ofCalls mixed).statement peopleRegistry personSchema).outcome {} ∧
      SelectQuery.statementOf sorted peopleRegistry personSchema =
        SelectQuery.statementOf mixed peopleRegistry personSchema := by
  intro mixed sorted
  have same : SameByKind mixed sorted := mixed_same_by_kind _ _
  have choices := same_by_kind_choices mixed sorted same
  obtain ⟨_, distinct, _, _, statements, reported⟩ := builder_calls_commute mixed
  have alike := statements sorted choices peopleRegistry personSchema
  exact ⟨same, choices, distinct, rfl, congrArg (·.outcome {}) alike,
    reported sorted same peopleRegistry personSchema⟩

end NestedFilter
