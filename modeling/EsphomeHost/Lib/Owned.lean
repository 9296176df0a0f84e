import Mathlib.Data.List.Nodup
import Mathlib.Data.List.Perm.Basic

/-!
# Children grouped by their owners

A tree kept as two flat lists: parents with keys, and children that name the key of their parent.
`pairs` links them by looking for the children of each parent among all of them.

* `pairs_perm`: the order of the lists only decides the order of the pairs.
* `pairs_apart`: two families that do not refer to each other are linked separately.
* `pairs_flatMap`: children that were listed parent by parent are linked to those parents.
-/

namespace Owned

variable {α β κ : Type} [DecidableEq κ]

/-- Every parent with each of its children. -/
def pairs (key : α → κ) (owner : β → Option κ) (parents : List α) (children : List β) :
    List (α × β) :=
  parents.flatMap fun p => (children.filter fun c => owner c = some (key p)).map (p, ·)

variable {key : α → κ} {owner : β → Option κ} {ps ps' : List α} {cs cs' : List β}

theorem pairs_perm (parents : ps.Perm ps') (children : cs.Perm cs') :
    (pairs key owner ps cs).Perm (pairs key owner ps' cs') :=
  parents.flatMap fun _ _ => (children.filter _).map _

theorem pairs_append_left : pairs key owner (ps ++ ps') cs =
    pairs key owner ps cs ++ pairs key owner ps' cs := List.flatMap_append

theorem pairs_append_right : (pairs key owner ps (cs ++ cs')).Perm
    (pairs key owner ps cs ++ pairs key owner ps cs') := by
  simp only [pairs, List.filter_append, List.map_append]
  exact (List.flatMap_append_perm ps _ _).symm

theorem pairs_congr (key' : α → κ) (owner' : β → Option κ) (keys : ∀ p ∈ ps, key p = key' p)
    (owners : ∀ c ∈ cs, owner c = owner' c) : pairs key owner ps cs = pairs key' owner' ps cs := by
  refine List.flatMap_congr fun p mem => congrArg _ (List.filter_congr fun c child => ?_)
  rw [owners c child, keys p mem]

/-- No child has an owner among the parents. -/
def Foreign (key : α → κ) (owner : β → Option κ) (parents : List α) (children : List β) : Prop :=
  ∀ p ∈ parents, ∀ c ∈ children, owner c ≠ some (key p)

theorem pairs_foreign (foreign : Foreign key owner ps cs) : pairs key owner ps cs = [] := by
  rw [pairs, List.flatMap_eq_nil_iff]
  intro p mem
  rw [List.map_eq_nil_iff, List.filter_eq_nil_iff]
  intro c child
  simpa using foreign p mem c child

/-- **Two families apart** from one another. -/
theorem pairs_apart (upper : Foreign key owner ps cs') (lower : Foreign key owner ps' cs) :
    (pairs key owner (ps ++ ps') (cs ++ cs')).Perm
      (pairs key owner ps cs ++ pairs key owner ps' cs') := by
  rw [pairs_append_left]
  refine List.Perm.append ?_ ?_
  · have split := @pairs_append_right _ _ _ _ key owner ps cs cs'
    rwa [pairs_foreign upper, List.append_nil] at split
  · have split := @pairs_append_right _ _ _ _ key owner ps' cs cs'
    rwa [pairs_foreign lower, List.nil_append] at split

theorem filter_flatMap_owner {kids : α → List β} (distinct : (ps.map key).Nodup)
    (own : ∀ p ∈ ps, ∀ c ∈ kids p, owner c = some (key p)) {p : α} (mem : p ∈ ps) :
    (ps.flatMap kids).filter (fun c => owner c = some (key p)) = kids p := by
  induction ps with
  | nil => cases mem
  | cons q rest ih =>
      obtain ⟨fresh, distinct⟩ := List.nodup_cons.mp distinct
      have here := own q List.mem_cons_self
      have below : ∀ p ∈ rest, ∀ c ∈ kids p, owner c = some (key p) :=
        fun p mem => own p (List.mem_cons_of_mem _ mem)
      rw [List.flatMap_cons, List.filter_append]
      rcases List.mem_cons.mp mem with rfl | later
      · have all : (kids p).filter (fun c => owner c = some (key p)) = kids p :=
          List.filter_eq_self.mpr fun c child => decide_eq_true (here c child)
        have none : (rest.flatMap kids).filter (fun c => owner c = some (key p)) = [] := by
          refine List.filter_eq_nil_iff.mpr fun c child => ?_
          obtain ⟨q, listed, child⟩ := List.mem_flatMap.mp child
          have apart : key p ≠ key q := fun same => fresh (same ▸ List.mem_map_of_mem listed)
          rw [below q listed c child]
          simpa using Ne.symm apart
        rw [all, none, List.append_nil]
      · have none : (kids q).filter (fun c => owner c = some (key p)) = [] := by
          refine List.filter_eq_nil_iff.mpr fun c child => ?_
          have apart : key q ≠ key p := fun same => fresh (same ▸ List.mem_map_of_mem later)
          rw [here c child]
          simpa using apart
        rw [none, List.nil_append, ih distinct below later]

/-- **Children that were listed parent by parent.** -/
theorem pairs_flatMap {kids : α → List β} (distinct : (ps.map key).Nodup)
    (own : ∀ p ∈ ps, ∀ c ∈ kids p, owner c = some (key p)) :
    pairs key owner ps (ps.flatMap kids) = ps.flatMap fun p => (kids p).map (p, ·) :=
  List.flatMap_congr fun _ mem => by rw [filter_flatMap_owner distinct own mem]

/-- Parents and children under other names. -/
theorem pairs_map {α' β' : Type} (f : α' → α) (g : β' → β) (ps : List α') (cs : List β') :
    pairs key owner (ps.map f) (cs.map g) =
      (pairs (fun a => key (f a)) (fun b => owner (g b)) ps cs).map (Prod.map f g) := by
  simp only [pairs, List.flatMap_map, List.map_flatMap, List.filter_map, List.map_map]
  rfl

end Owned
