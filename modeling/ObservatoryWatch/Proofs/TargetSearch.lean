import ObservatoryWatch.Observatory.Sequence

/-!
What the search for the running target finds.

The nodes that can be seen in a sequence are listed in the order in which the tree is written, each
before those below it. A node that is no target is searched all the same, and the search ends with
the first one that is; so it finds the first node of the whole list that stands for a target.
-/

namespace ObservatoryWatch

/-! ## Visible nodes -/

namespace Json

theorem find_object (members : Members) (key : String) :
    ((object members).members? >>= (·.find? key)) = members.lookup key := rfl

theorem mem_of_itemsAt_ne_nil {value : Json} {key : String} (listed : value.itemsAt key ≠ []) :
    ∃ members, value = .object members ∧ (key, .array (value.itemsAt key)) ∈ members := by
  cases value with
  | object members =>
      refine ⟨members, rfl, ?_⟩
      unfold itemsAt at listed ⊢
      rw [find_object] at listed ⊢
      cases found : members.lookup key with
      | none => rw [found] at listed; exact absurd rfl listed
      | some entry =>
          rcases List.lookup_eq_some_iff.mp found with ⟨before, after, rfl, _⟩
          cases entry with
          | array items => simp
          | _ => rw [found] at listed; exact absurd rfl listed
  | _ => exact absurd rfl listed

/-- What is listed inside a value is no larger than the value. -/
theorem sizeOf_itemsAt (value : Json) (key : String) :
    sizeOf (value.itemsAt key) ≤ sizeOf value := by
  by_cases none : value.itemsAt key = []
  · rw [none]
    cases value <;> simp
  · rcases mem_of_itemsAt_ne_nil none with ⟨members, same, listed⟩
    have smaller := List.sizeOf_lt_of_mem listed
    rw [Prod.mk.sizeOf_spec, array.sizeOf_spec] at smaller
    have whole : sizeOf value = 1 + sizeOf members := by rw [same, object.sizeOf_spec]
    omega

end Json

namespace Observatory

/-- Name and status of the visible nodes of a list, each node before those below it. -/
def visibleNodes : List Json → List (String × String)
  | [] => []
  | item :: rest =>
    match item.textAt? "Name", item.textAt? "Status" with
    | some name, some status =>
      (name, status) :: visibleNodes (item.itemsAt "Items") ++ visibleNodes rest
    | _, _ => visibleNodes rest
termination_by items => sizeOf items
decreasing_by
  · have part := Json.sizeOf_itemsAt item "Items"
    simp only [List.cons.sizeOf_spec]
    omega
  · simp only [List.cons.sizeOf_spec]
    omega
  · simp only [List.cons.sizeOf_spec]
    omega

/-- The node is an active container of this target, and the target is no system container. -/
structure Runs (node : String × String) (target : String) : Prop where
  active : node.2 = "RUNNING" ∨ node.2 = "Active"
  container : node.1 = target ++ "_Container"
  named : target ≠ ""
  own : target ∉ Node.systemContainers

namespace Node

/-! ## A single node -/

theorem withoutEnding?_eq_some_iff {name target : String} :
    withoutEnding? name = some target ↔ name = target ++ targetEnding := by
  unfold withoutEnding?
  constructor
  · intro found
    rcases Option.ite_none_right_eq_some.mp found with ⟨ending, cut⟩
    rcases List.isSuffixOf_iff_suffix.mp ending with ⟨front, whole⟩
    have same : front = target.toList := by
      rw [← Option.some.inj cut, String.toList_ofList, ← String.length_toList,
        ← String.length_toList, ← whole, List.length_append, Nat.add_sub_cancel,
        List.take_left' rfl]
    rw [← String.toList_inj, String.toList_append, ← same, whole]
  · rintro rfl
    have ending : targetEnding.toList.isSuffixOf (target ++ targetEnding).toList = true :=
      List.isSuffixOf_iff_suffix.mpr ⟨target.toList, String.toList_append.symm⟩
    rw [if_pos ending, String.length_append, Nat.add_sub_cancel, String.toList_append,
      List.take_left' String.length_toList, String.ofList_toList]

theorem target?_eq_some_iff {node : Node} {target : String} :
    node.target? = some target ↔ Runs (node.name, node.status) target := by
  have active : activeStatuses.contains node.status = true ↔
      node.status = "RUNNING" ∨ node.status = "Active" := by simp [activeStatuses]
  unfold target?
  rw [Option.ite_none_right_eq_some, active, Option.bind_eq_some_iff]
  constructor
  · rintro ⟨running, name, container, own⟩
    rcases Option.ite_none_left_eq_some.mp own with ⟨other, same⟩
    cases same
    have parts : target ≠ "" ∧ target ∉ systemContainers := by simpa using other
    exact ⟨running, withoutEnding?_eq_some_iff.mp container, parts.1, parts.2⟩
  · rintro ⟨running, container, named, own⟩
    refine ⟨running, target, withoutEnding?_eq_some_iff.mpr container, ?_⟩
    rw [if_neg (by simp [named, own])]

/-! ## The whole tree -/

theorem underMembers_eq (members : Json.Members) :
    underMembers members = ofItems ((Json.object members).itemsAt "Items") := by
  unfold Json.itemsAt
  rw [Json.find_object]
  induction members with
  | nil => rw [underMembers, List.lookup_nil, ofItems]
  | cons member rest induction =>
      rcases member with ⟨key, value⟩
      have turned : ("Items" == key) = (key == "Items") := BEq.comm
      rw [underMembers, List.lookup_cons, turned]
      cases key == "Items" with
      | false => exact induction
      | true => cases value <;> rfl

theorem ofJson?_eq (item : Json) :
    ofJson? item =
      match item.textAt? "Name", item.textAt? "Status" with
      | some name, some status => some ⟨name, status, ofItems (item.itemsAt "Items")⟩
      | _, _ => none := by
  cases item with
  | object members =>
      rewrite [ofJson?, underMembers_eq]
      cases (Json.object members).textAt? "Name" <;>
        cases (Json.object members).textAt? "Status" <;> rfl
  | _ => rfl

/-- What the search finds is found in the list of the visible nodes. -/
theorem firstRunning?_eq (items : List Json) :
    firstRunning? (ofItems items) =
      (visibleNodes items).findSome? fun node => target? ⟨node.1, node.2, []⟩ := by
  fun_induction visibleNodes items with
  | case1 => rfl
  | case2 item rest name status named stated below after =>
      have own : target? ⟨name, status, ofItems (item.itemsAt "Items")⟩ =
        target? ⟨name, status, []⟩ := rfl
      rw [ofItems, ofJson?_eq, named, stated, List.findSome?_append, List.findSome?_cons, ← below,
        ← after, firstRunning?, runningTarget?, own]
      cases target? ⟨name, status, []⟩ <;>
        cases firstRunning? (ofItems (item.itemsAt "Items")) <;> rfl
  | case3 item rest hidden after =>
      have none : ofJson? item = none := by
        rw [ofJson?_eq]
        cases named : item.textAt? "Name" with
        | none => rfl
        | some name =>
            cases stated : item.textAt? "Status" with
            | none => rfl
            | some status => exact absurd stated (hidden name status named)
      rw [ofItems, none]
      exact after

end Node

/-- The current target of a sequence is that of the first visible node, in the order in which the
tree is written, that runs a target; if there is no such node, there is no current target. -/
theorem Sequence.target_is_first_running (tree : List Json) :
    (∀ target, Sequence.target? tree = some target ↔
      ∃ before node after, visibleNodes tree = before ++ node :: after ∧ Runs node target ∧
        ∀ earlier ∈ before, ∀ other, ¬ Runs earlier other) ∧
    (Sequence.target? tree = none ↔ ∀ node ∈ visibleNodes tree, ∀ target, ¬ Runs node target) := by
  have notRunning (node : String × String) :
      Node.target? ⟨node.1, node.2, []⟩ = none ↔ ∀ target, ¬ Runs node target := by
    rw [Option.eq_none_iff_forall_ne_some]
    exact forall_congr' fun target => not_congr Node.target?_eq_some_iff
  unfold Sequence.target?
  rw [Node.firstRunning?_eq]
  constructor
  · intro target
    simp only [List.findSome?_eq_some_iff, notRunning, Node.target?_eq_some_iff]
  · simp only [List.findSome?_eq_none_iff, notRunning]

end Observatory

end ObservatoryWatch
