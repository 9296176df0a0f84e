import EsphomeHost.Lib.Replace

/-!
# Conditional text

The lines of a text of which a preprocessor keeps some: a line opens a group, starts another branch
of it, closes it, or is ordinary text, kept where every open group is in a branch that was chosen.
What a line is, is a parameter (`Reading`), so that two readings of the same lines can be compared.

* `exec_replaceAll`: replacing a fragment of whole lines by one that executes alike from every state
  replaces nothing of what is kept, where the readings agree elsewhere.
* `preprocess_append_text`: ordinary lines behind a text are kept behind it.
-/

namespace Conditional

open Cut Replace

abbrev Line := List Char

/-- The lines of a text; it ends with a line that may be empty. -/
def lines : List Char → List Line
  | [] => [[]]
  | c :: s =>
      if c = '\n' then [] :: lines s
      else
        match lines s with
        | [] => [[c]]
        | l :: ls => (c :: l) :: ls

/-- What a line is to the preprocessor, its condition evaluated. -/
inductive Item where
  | opens (holds : Bool)
  | elif (holds : Bool)
  | otherwise
  | closes
  | text
deriving DecidableEq

abbrev Reading := Line → Item

/-- An open group: whether this branch is kept, whether a later one cannot be any more, and whether
it is the last one. -/
structure Frame where
  live : Bool
  taken : Bool
  last : Bool
deriving DecidableEq

/-- Outside of every group the text is kept. -/
def live : List Frame → Bool
  | [] => true
  | f :: _ => f.live

/-- A line in a state; `none` for a branch or an end without a group that can have it. -/
def advance (line : Line) : Item → List Frame → Option (List Frame × List Line)
  | .opens holds, fs => some (⟨live fs && holds, !live fs || holds, false⟩ :: fs, [])
  | .elif holds, ⟨_, taken, false⟩ :: fs =>
      some (⟨!taken && holds, taken || holds, false⟩ :: fs, [])
  | .otherwise, ⟨_, taken, false⟩ :: fs => some (⟨!taken, true, true⟩ :: fs, [])
  | .closes, _ :: fs => some (fs, [])
  | .text, fs => some (fs, if live fs then [line] else [])
  | _, _ => none

def step (read : Reading) (fs : List Frame) (line : Line) : Option (List Frame × List Line) :=
  advance line (read line) fs

def exec (read : Reading) : List Frame → List Line → Option (List Frame × List Line)
  | fs, [] => some (fs, [])
  | fs, l :: ls => do
      let (fs, kept) ← step read fs l
      let (fs, rest) ← exec read fs ls
      return (fs, kept ++ rest)

/-- The lines kept of a text, `none` if its groups are not balanced. -/
def preprocess (read : Reading) (s : List Char) : Option (List Line) :=
  match exec read [] (lines s) with
  | some ([], kept) => some kept
  | _ => none

variable {read read' : Reading} {fs : List Frame} {l : Line} {ls ms : List Line}
variable {old new s a b : List Char}

theorem lines_ne_nil (s : List Char) : lines s ≠ [] := by
  cases s with
  | nil => exact nofun
  | cons c s =>
      rw [lines]
      split
      · exact nofun
      · split <;> exact nofun

theorem lines_cons_of_ne {c : Char} (other : c ≠ '\n') :
    ∃ l ls, lines s = l :: ls ∧ lines (c :: s) = (c :: l) :: ls := by
  obtain ⟨l, ls, same⟩ := List.exists_cons_of_ne_nil (lines_ne_nil s)
  refine ⟨l, ls, same, ?_⟩
  rw [lines, if_neg other, same]

/-- The lines before and behind a line end. -/
theorem lines_append (a b : List Char) : lines (a ++ '\n' :: b) = lines a ++ lines b := by
  induction a with
  | nil => exact if_pos rfl
  | cons c a ih =>
      by_cases ends : c = '\n'
      · rw [List.cons_append, lines, if_pos ends, ih, lines, if_pos ends, List.cons_append]
      · obtain ⟨l, ls, here, longer⟩ := lines_cons_of_ne (s := a) ends
        obtain ⟨l', ls', here', longer'⟩ := lines_cons_of_ne (s := a ++ '\n' :: b) ends
        rw [ih, here, List.cons_append] at here'
        cases here'
        rw [List.cons_append, longer', longer, List.cons_append]

/-- A line is a part of the text. -/
theorem infix_of_mem_lines (mem : l ∈ lines s) : l <:+: s := by
  suffices h : (∃ first rest, lines s = first :: rest ∧ first <+: s ∧ ∀ l ∈ rest, l <:+: s) by
    obtain ⟨first, rest, same, start, others⟩ := h
    rw [same] at mem
    rcases List.mem_cons.mp mem with rfl | mem
    · exact start.isInfix
    · exact others l mem
  clear mem
  induction s with
  | nil => exact ⟨[], [], rfl, List.prefix_rfl, nofun⟩
  | cons c s ih =>
      obtain ⟨first, rest, same, start, others⟩ := ih
      by_cases ends : c = '\n'
      · refine ⟨[], first :: rest, ?_, List.nil_prefix, fun l mem => ?_⟩
        · rw [lines, if_pos ends, same]
        · rcases List.mem_cons.mp mem with rfl | mem
          · exact start.isInfix.trans (List.suffix_cons c s).isInfix
          · exact (others l mem).trans (List.suffix_cons c s).isInfix
      · refine ⟨c :: first, rest, ?_, List.cons_prefix_cons.mpr ⟨rfl, start⟩, fun l mem => ?_⟩
        · rw [lines, if_neg ends, same]
        · exact (others l mem).trans (List.suffix_cons c s).isInfix

theorem exec_append (ls ms : List Line) (fs : List Frame) :
    exec read fs (ls ++ ms) = do
      let (fs, kept) ← exec read fs ls
      let (fs, rest) ← exec read fs ms
      return (fs, kept ++ rest) := by
  induction ls generalizing fs with
  | nil =>
      simp only [List.nil_append, exec, Option.bind_eq_bind, Option.bind_some]
      cases exec read fs ms <;> rfl
  | cons l ls ih =>
      rw [List.cons_append, exec, exec]
      cases step read fs l with
      | none => rfl
      | some r =>
          simp only [Option.bind_eq_bind, Option.bind_some, ih]
          cases exec read r.1 ls with
          | none => rfl
          | some r' =>
              simp only [Option.bind_some, Option.pure_def]
              cases exec read r'.1 ms with
              | none => rfl
              | some r'' => simp [List.append_assoc]

/-- Two runs in a row, part by part. -/
theorem exec_append_congr {ls' ms' : List Line}
    (first : ∀ fs, exec read fs ls = exec read' fs ls')
    (second : ∀ fs, exec read fs ms = exec read' fs ms') (fs : List Frame) :
    exec read fs (ls ++ ms) = exec read' fs (ls' ++ ms') := by
  rw [exec_append, exec_append, first]
  cases exec read' fs ls' with
  | none => rfl
  | some r =>
      simp only [Option.bind_eq_bind, Option.bind_some, second]

/-- Readings that agree on the lines keep the same of them. -/
theorem exec_congr (same : ∀ l ∈ ls, read l = read' l) (fs : List Frame) :
    exec read fs ls = exec read' fs ls := by
  induction ls generalizing fs with
  | nil => rfl
  | cons l ls ih =>
      have rest := ih fun l mem => same l (List.mem_cons_of_mem _ mem)
      rw [exec, exec, step, step, same l List.mem_cons_self]
      cases advance l (read' l) fs with
      | none => rfl
      | some r => simp only [Option.bind_eq_bind, Option.bind_some, rest]

/-! ## Whole lines -/

/-- Every occurrence of the fragment begins and ends with a line; `start` says whether the text
begins with one. -/
def aligned (old : List Char) : Bool → List Char → Bool
  | _, [] => true
  | start, c :: s =>
      (!decide (old <+: c :: s) ||
        start && decide (((c :: s).drop old.length).head?.all (· = '\n'))) &&
      aligned old (c = '\n') s

theorem aligned_suffix {start : Bool} (whole : aligned old start (a ++ '\n' :: b) = true) :
    aligned old true b = true := by
  induction a generalizing start with
  | nil => exact (Bool.and_eq_true_iff.mp whole).2
  | cons c a ih => exact ih (Bool.and_eq_true_iff.mp whole).2

/-- An occurrence in a text of which the fragment takes whole lines. -/
theorem aligned_here {start : Bool} (nonempty : old ≠ [])
    (whole : aligned old start (a ++ old ++ b) = true) :
    (a = [] ∧ start = true ∨ ∃ a', a = a' ++ ['\n']) ∧ (b = [] ∨ ∃ b', b = '\n' :: b') := by
  induction a generalizing start with
  | nil =>
      obtain ⟨c, old', rfl⟩ := List.exists_cons_of_ne_nil nonempty
      have here : c :: old' <+: (c :: old') ++ b := List.prefix_append _ _
      rw [List.nil_append, List.cons_append, aligned, ← List.cons_append, decide_eq_true here,
        List.drop_left] at whole
      simp only [Bool.not_true, Bool.false_or, Bool.and_eq_true] at whole
      refine ⟨.inl ⟨rfl, whole.1.1⟩, ?_⟩
      cases b with
      | nil => exact .inl rfl
      | cons d b =>
          have ends : d = '\n' := by simpa using whole.1.2
          exact .inr ⟨b, ends ▸ rfl⟩
  | cons c a ih =>
      obtain ⟨before, behind⟩ := ih (Bool.and_eq_true_iff.mp whole).2
      refine ⟨.inr ?_, behind⟩
      rcases before with ⟨rfl, ends⟩ | ⟨a', rfl⟩
      · exact ⟨[], by rw [of_decide_eq_true ends]; rfl⟩
      · exact ⟨c :: a', rfl⟩

theorem lines_before (before : a = [] ∨ ∃ a', a = a' ++ ['\n']) :
    ∃ ls, (∀ s, lines (a ++ s) = ls ++ lines s) ∧ ∀ l ∈ ls, l <:+: a := by
  rcases before with rfl | ⟨a', rfl⟩
  · exact ⟨[], fun _ => rfl, nofun⟩
  · refine ⟨lines a', fun s => ?_, fun l mem => ?_⟩
    · rw [List.append_assoc]
      exact lines_append a' s
    · exact (infix_of_mem_lines mem).trans (List.prefix_append _ _).isInfix

/-- **Replacing whole lines by lines that execute alike changes nothing of what is kept.** -/
theorem exec_replaceAll (visible : ∀ s, ¬ old <+: '\n' :: s)
    (same : ∀ fs, exec read fs (lines new) = exec read' fs (lines old))
    (elsewhere : ∀ l, ¬ old <:+: l → read l = read' l)
    (whole : aligned old true s = true) (fs : List Frame) :
    exec read fs (lines (replaceAll old new s)) = exec read' fs (lines s) := by
  have nonempty : old ≠ [] := fun empty => visible [] (empty ▸ List.nil_prefix)
  have clean : ∀ {s}, cut old s = none → ∀ l, l <:+: s → read l = read' l :=
    fun missing l part => elsewhere l fun inside => by
      have found := cut_isSome_iff.mpr (inside.trans part)
      rw [missing] at found
      cases found
  induction s using occurrences_induction nonempty generalizing fs with
  | none s missing =>
      rw [replaceAll_of_cut_none missing]
      exact exec_congr (fun l mem => clean missing l (infix_of_mem_lines mem)) fs
  | some s a b found ih =>
      have parts := eq_of_cut found
      rw [replaceAll_of_cut nonempty found]
      rw [parts] at found whole ⊢
      obtain ⟨before, behind⟩ := aligned_here nonempty whole
      have first : cut old a = none :=
        cut_eq_none_of_short (List.append_assoc a old b ▸ found)
          (Nat.lt_add_of_pos_right (List.length_pos_iff.mpr nonempty))
      obtain ⟨ls, split, inside⟩ := lines_before (before.imp And.left id)
      rw [List.append_assoc, List.append_assoc, split, split]
      refine exec_append_congr (exec_congr fun l mem => clean first l (inside l mem)) ?_ fs
      rcases behind with rfl | ⟨b', rfl⟩
      · rw [replaceAll_nil, List.append_nil, List.append_nil]
        exact same
      · rw [replaceAll_cons (visible b'), lines_append, lines_append]
        exact exec_append_congr same
          (fun fs => ih b' (List.suffix_cons _ b') (aligned_suffix whole) fs)

/-- Ordinary lines behind a text are kept behind it. -/
theorem preprocess_append_text (ms : List Line) (ordinary : ∀ l ∈ ms, read l = .text)
    (ends : lines b = ms) :
    preprocess read (s ++ '\n' :: b) = (preprocess read s).map (· ++ ms) := by
  have all : ∀ fs, exec read fs ms = some (fs, if live fs then ms else []) := by
    intro fs
    clear ends
    induction ms with
    | nil => rw [exec, ite_self]
    | cons l ms ih =>
        rw [exec, step, ordinary l List.mem_cons_self, advance]
        simp only [Option.bind_eq_bind, Option.bind_some,
          ih fun l mem => ordinary l (List.mem_cons_of_mem _ mem), Option.pure_def]
        split <;> rfl
  rw [preprocess, preprocess, lines_append, exec_append, ends]
  cases exec read [] (lines s) with
  | none => rfl
  | some r =>
      obtain ⟨fs, kept⟩ := r
      simp only [Option.bind_eq_bind, Option.bind_some, all, Option.pure_def]
      cases fs <;> rfl

end Conditional
