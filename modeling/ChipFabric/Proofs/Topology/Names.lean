/-
Names in the tree. A path lies below a component if it is the component's
own or goes on from it with a slash. Names without a slash keep the children
of one parent apart, with everything below them (`eq_of_below`): what stands
between the parent's slash and the next one is the name (`nameAfter`).
-/
import ChipFabric.Text.Numeral.Lemmas
import ChipFabric.Topology.Cluster

namespace ChipFabric

-- ============================================================== paths

/-- The path is that of the component or of something in it. -/
def Below (top path : String) : Prop :=
  path = top ∨ ∃ rest, path = top ++ "/" ++ rest

theorem Below.refl (top : String) : Below top top := .inl rfl

theorem Below.child (top name : String) : Below top (top ++ "/" ++ name) :=
  .inr ⟨name, rfl⟩

/-- No component is its own child. -/
theorem ne_child (top name : String) : top ≠ top ++ "/" ++ name := by
  intro h
  have hlen := congrArg (·.toList.length) h
  simp only [String.toList_append, List.length_append] at hlen
  have hslash : "/".toList.length = 1 := by decide
  omega

/-- The name that follows the parent's path and a slash. -/
def nameAfter (parent path : String) : List Char :=
  (path.toList.drop (parent ++ "/").toList.length).takeWhile (· ≠ '/')

/-- Everything below a child has the child's name after the parent. -/
theorem nameAfter_of_below {parent name path : String}
    (hname : '/' ∉ name.toList) (h : Below (parent ++ "/" ++ name) path) :
    nameAfter parent path = name.toList := by
  have hall : ∀ c ∈ name.toList, (decide (c ≠ '/')) = true := by
    intro c hc
    rw [decide_eq_true_eq]
    rintro rfl
    exact hname hc
  unfold nameAfter
  rw [Below] at h
  generalize parent ++ "/" = front at h
  rcases h with rfl | ⟨rest, rfl⟩
  · rw [String.toList_append, List.drop_left]
    have htake : (name.toList ++ []).takeWhile (· ≠ '/') = name.toList
        ++ [].takeWhile (· ≠ '/') :=
      List.takeWhile_append_of_pos hall
    simpa using htake
  · rw [String.toList_append, String.toList_append, String.toList_append,
      List.append_assoc, List.append_assoc, List.drop_left,
      List.takeWhile_append_of_pos hall]
    simp

/-- Nothing lies below two children of one parent. -/
theorem eq_of_below {parent a b path : String} (ha : '/' ∉ a.toList)
    (hb : '/' ∉ b.toList) (h : Below (parent ++ "/" ++ a) path)
    (h' : Below (parent ++ "/" ++ b) path) : a = b :=
  String.toList_inj.1
    ((nameAfter_of_below ha h).symm.trans (nameAfter_of_below hb h'))

-- ============================================================== names

theorem clusterName_inj {a b : Nat} : clusterName a = clusterName b ↔
    a = b := by
  rw [clusterName, clusterName, String.append_right_inj, Numeral.decimal_inj]

theorem toList_clusterName (id : Nat) :
    (clusterName id).toList = "cluster_".toList
      ++ (Numeral.decimal id).toList :=
  String.toList_append

theorem slash_not_mem_clusterName (id : Nat) :
    '/' ∉ (clusterName id).toList := by
  rw [toList_clusterName, List.mem_append, not_or]
  refine ⟨by decide, fun h => ?_⟩
  have hdigit := Numeral.isDigit_of_mem_decimal h
  revert hdigit
  decide

/-- A path is not in a cluster if the name it has there does not start like
that of a cluster. -/
theorem not_below_cluster {parent path : String}
    (h : (nameAfter parent path).head? ≠ some 'c') (id : Nat) :
    ¬ Below (parent ++ "/" ++ clusterName id) path := by
  intro hbelow
  rw [nameAfter_of_below (slash_not_mem_clusterName id) hbelow,
    toList_clusterName] at h
  exact h rfl

theorem ne_clusterName {name : String} (h : name.toList.head? ≠ some 'c')
    (id : Nat) : name ≠ clusterName id := by
  rintro rfl
  rw [toList_clusterName] at h
  exact h rfl

/-- Nothing is in two clusters. -/
theorem eq_of_below_cluster {parent path : String} {a b : Nat}
    (h : Below (parent ++ "/" ++ clusterName a) path)
    (h' : Below (parent ++ "/" ++ clusterName b) path) : a = b :=
  clusterName_inj.1
    (eq_of_below (slash_not_mem_clusterName a)
      (slash_not_mem_clusterName b) h h')

/-- No core has the name of one of the other components of its cluster. -/
theorem coreName_ne (localId : Nat) :
    ∀ name ∈ ["xbar", "tcdm", "periph", "zero_mem", "idma"],
      "pe" ++ Numeral.decimal localId ≠ name := by
  intro name hname heq
  have hchars := congrArg String.toList heq
  rw [String.toList_append] at hchars
  simp only [List.mem_cons, List.not_mem_nil, or_false] at hname
  rcases hname with rfl | rfl | rfl | rfl | rfl
  case inr.inr.inl =>
    -- only here a digit would have to be a letter
    have htail : (Numeral.decimal localId).toList = "riph".toList :=
      List.append_cancel_left (hchars.trans rfl)
    have hdigit : 'r'.isDigit := by
      apply Numeral.isDigit_of_mem_decimal (n := localId)
      rw [htail]
      decide
    revert hdigit
    decide
  all_goals simp at hchars

end ChipFabric
