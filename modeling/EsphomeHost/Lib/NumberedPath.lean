import Mathlib.Data.List.Nodup

/-!
# Numbered paths

A tree of objects whose paths are made by numbering the children of each node in decimal:
`parent/tag0`, `parent/tag1` and so on, one tag a level.

* `child_inj`: a path determines its parent and its number.
* `depth_child`: the levels of a tree do not share a path.
* `nodup_flatMap_children`: the children of distinct parents have distinct paths.
-/

namespace NumberedPath

/-- The path of child number `n`. -/
def child (tag parent : List Char) (n : Nat) : List Char :=
  parent ++ '/' :: (tag ++ Nat.toDigits 10 n)

/-- The paths of `count` children, numbered from `first` on. -/
def children (tag parent : List Char) (first count : Nat) : List (List Char) :=
  (List.range' first count).map (child tag parent)

/-- How many names a path has. -/
def depth (path : List Char) : Nat := path.count '/'

variable {tag p q : List Char} {m n : Nat}

theorem slash_not_mem_toDigits (n : Nat) : '/' ∉ Nat.toDigits 10 n := by
  intro mem
  have digit := Nat.isDigit_of_mem_toDigits (by decide) (by decide) mem
  exact absurd digit (by decide)

theorem slash_not_mem_name (plain : '/' ∉ tag) (n : Nat) : '/' ∉ tag ++ Nat.toDigits 10 n := by
  intro mem
  rcases List.mem_append.mp mem with inTag | inNumber
  · exact plain inTag
  · exact slash_not_mem_toDigits n inNumber

theorem toDigits_inj (same : Nat.toDigits 10 m = Nat.toDigits 10 n) : m = n := by
  have read := congrArg (fun digits => Nat.ofDigitChars 10 digits 0) same
  simpa only [Nat.ofDigitChars_ten_toDigits] using read

/-- The last separator of a list is where it is cut into two. -/
theorem append_sep_inj {α : Type} {x : α} {a b c d : List α} (fresh : x ∉ b) (fresh' : x ∉ d)
    (same : a ++ x :: b = c ++ x :: d) : a = c ∧ b = d := by
  rcases List.append_eq_append_iff.mp same with ⟨e, hc, hb⟩ | ⟨e, ha, hd⟩
  · cases e with
    | nil =>
        simp only [List.append_nil, List.nil_append, List.cons.injEq, true_and] at hc hb
        exact ⟨hc.symm, hb⟩
    | cons y e =>
        obtain ⟨rfl, rfl⟩ := List.cons.inj hb
        exact absurd (List.mem_append_right e List.mem_cons_self) fresh
  · cases e with
    | nil =>
        simp only [List.append_nil, List.nil_append, List.cons.injEq, true_and] at ha hd
        exact ⟨ha, hd.symm⟩
    | cons y e =>
        obtain ⟨rfl, rfl⟩ := List.cons.inj hd
        exact absurd (List.mem_append_right e List.mem_cons_self) fresh'

/-- A path determines its parent and its number. -/
theorem child_inj (plain : '/' ∉ tag) (same : child tag p m = child tag q n) : p = q ∧ m = n := by
  obtain ⟨parents, names⟩ :=
    append_sep_inj (slash_not_mem_name plain m) (slash_not_mem_name plain n) same
  exact ⟨parents, toDigits_inj (List.append_cancel_left names)⟩

theorem depth_child (plain : '/' ∉ tag) (p : List Char) (n : Nat) :
    depth (child tag p n) = depth p + 1 := by
  have name := List.count_eq_zero.mpr (slash_not_mem_name plain n)
  rw [depth, child, List.count_append, List.count_cons_self, name, depth]

theorem mem_children {path : List Char} {first count : Nat} :
    path ∈ children tag p first count ↔
      ∃ i, (first ≤ i ∧ i < first + count) ∧ child tag p i = path := by
  simp only [children, List.mem_map, List.mem_range'_1]

theorem depth_of_mem_children (plain : '/' ∉ tag) {path : List Char} {first count : Nat}
    (mem : path ∈ children tag p first count) : depth path = depth p + 1 := by
  obtain ⟨i, -, rfl⟩ := mem_children.mp mem
  exact depth_child plain p i

theorem children_nodup (plain : '/' ∉ tag) (p : List Char) (first count : Nat) :
    (children tag p first count).Nodup :=
  List.Nodup.map (fun _ _ same => (child_inj plain same).2) List.nodup_range'

/-- **The children of distinct parents have distinct paths.** -/
theorem nodup_flatMap_children {α : Type} (plain : '/' ∉ tag) (path : α → List Char)
    (count : α → Nat) {nodes : List α} (distinct : (nodes.map path).Nodup) :
    (nodes.flatMap fun e => children tag (path e) 0 (count e)).Nodup := by
  rw [List.nodup_flatMap]
  refine ⟨fun e _ => children_nodup plain _ _ _, ?_⟩
  refine (List.pairwise_map.mp distinct).imp ?_
  intro e e' parents path' mem mem'
  obtain ⟨i, -, rfl⟩ := mem_children.mp mem
  obtain ⟨j, -, same⟩ := mem_children.mp mem'
  exact parents (child_inj plain same).1.symm

end NumberedPath
