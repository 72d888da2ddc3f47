/-
# Paths from the root

A path is from the root if it starts with a separator.  What is put at its end leaves the start as
it is, or is from the root itself.  So the path that `Path.absolute?` makes is from the root, if the
working directory is.

A working directory is a path through names, none of which is a point or two.  A relative path put
after it has the names and its own steps, so both have the same absolute form
(`Path.absolute?_join`).

A path has a directory part unless it has a single component, or none
(`Path.isCompound_eq_false_iff`).
-/

import Doctest.Path
import Doctest.Proofs.Text.Split
import Mathlib.Data.List.Induction

namespace Doctest
namespace Path

theorem isAbsolute_append {p : Path} (hp : p.isAbsolute = true) (t : Bytes) :
    isAbsolute (p ++ t) = true := by
  cases p with
  | nil => cases hp
  | cons c p => exact hp

theorem isAbsolute_join {p : Path} (hp : p.isAbsolute = true) (q : Path) :
    (p.join q).isAbsolute = true := by
  unfold join
  split
  · assumption
  · split
    · exact isAbsolute_append hp q
    · rw [List.append_assoc]
      exact isAbsolute_append hp _

theorem isAbsolute_push {p : Path} (hp : p.isAbsolute = true) (c : Component) :
    (p.push c).isAbsolute = true := by
  cases c with
  | root => rfl
  | current => exact isAbsolute_join hp _
  | parent => exact isAbsolute_join hp _
  | normal name => exact isAbsolute_join hp name

theorem isAbsolute_foldl_push {p : Path} (hp : p.isAbsolute = true) (cs : List Component) :
    (cs.foldl push p).isAbsolute = true := by
  induction cs generalizing p with
  | nil => exact hp
  | cons c cs ih => exact ih (isAbsolute_push hp c)

/-- A path from the root names the same file wherever the program is started. -/
theorem absolute?_of_isAbsolute {p : Path} (hp : p.isAbsolute = true) (cwd cwd' : Path) :
    absolute? cwd p = absolute? cwd' p := by
  simp only [absolute?, hp, if_true]

/-- **The path that is made absolute is from the root**, if the working directory is where it is
needed. -/
theorem isAbsolute_of_absolute? {cwd p q : Path}
    (hcwd : p.isAbsolute = false → cwd.isAbsolute = true) (h : absolute? cwd p = some q) :
    q.isAbsolute = true := by
  unfold absolute? at h
  split at h
  · cases h
  · obtain rfl := Option.some.inj h
    have hstart : isAbsolute (if p.isAbsolute then
        if Text.startsWith [slash, slash] p && !Text.startsWith [slash, slash, slash] p then
          [slash, slash]
        else [slash]
      else cwd) = true := by
      split
      · split <;> rfl
      · rename_i hp
        exact hcwd (Bool.not_eq_true _ ▸ hp)
    have hwhole := isAbsolute_foldl_push hstart
      (p.components.filter fun c => c ≠ .root && c ≠ .current)
    split
    · exact isAbsolute_join hwhole []
    · exact hwhole

/-! ## Paths through names -/

/-- The name of a file or a directory, as it stands between two separators. -/
structure IsName (name : Bytes) : Prop where
  separator : slash ∉ name
  solid : isNoise name = false
  parent : name ≠ [dot, dot]

variable {names : List Bytes} {p : Path}

namespace IsName

variable {name : Bytes}

theorem ne_nil (h : IsName name) : name ≠ [] := by
  rintro rfl
  cases h.solid

theorem isAbsolute (h : IsName name) : Path.isAbsolute name = false := by
  refine decide_eq_false fun hfirst => h.separator (List.mem_of_head? hfirst)

end IsName

/-- The path from the root through some names. -/
def ofNames (names : List Bytes) : Path := slash :: Text.join [slash] names

/-- A relative path after a path through names. -/
theorem join_ofNames (h : ∀ n ∈ names, IsName n) (hp : p.isAbsolute = false) :
    (ofNames names).join p = slash :: (names.flatMap (· ++ [slash]) ++ p) := by
  rw [join, hp, if_neg Bool.false_ne_true]
  rcases List.eq_nil_or_concat names with rfl | ⟨before, n, rfl⟩
  · rfl
  · rw [List.concat_eq_append] at h ⊢
    have hn : IsName n := h n (by simp)
    have hwhole : ofNames (before ++ [n]) = slash :: (before.flatMap (· ++ [slash]) ++ n) := by
      rw [ofNames, Text.join_concat]
    have hlast : (ofNames (before ++ [n])).getLast? ≠ some slash := by
      rw [hwhole, ← List.cons_append, List.getLast?_append,
        Option.or_of_isSome (List.getLast?_isSome.2 hn.ne_nil)]
      exact fun hlast => hn.separator (List.mem_of_getLast? hlast)
    have hends : ¬ (decide (ofNames (before ++ [n]) = []) ||
        decide ((ofNames (before ++ [n])).getLast? = some slash)) = true := by
      rw [Bool.or_eq_true, decide_eq_true_iff, decide_eq_true_iff]
      exact not_or.2 ⟨List.cons_ne_nil _ _, hlast⟩
    rw [if_neg hends, hwhole, List.flatMap_append, List.flatMap_singleton]
    simp only [List.cons_append, List.append_assoc]

/-- What is put after it is where it ends. -/
theorem getLast?_join_ofNames (h : ∀ n ∈ names, IsName n) (hp : p.isAbsolute = false)
    (hne : p ≠ []) :
    ((ofNames names).join p).getLast? = p.getLast? := by
  rw [join_ofNames h hp, ← List.cons_append, List.getLast?_append,
    Option.or_of_isSome (List.getLast?_isSome.2 hne)]

/-- The empty path after it leaves a separator. -/
theorem getLast?_join_nil (h : ∀ n ∈ names, IsName n) :
    ((ofNames names).join []).getLast? = some slash := by
  rw [join_ofNames h rfl, List.append_nil]
  rcases List.eq_nil_or_concat names with rfl | ⟨before, n, rfl⟩
  · rfl
  · rw [List.concat_eq_append, List.flatMap_append, List.flatMap_singleton, ← List.append_assoc,
      ← List.cons_append, List.getLast?_concat]

/-- **A path through names is put together from them**, one after the other. -/
theorem foldl_push_ofNames (h : ∀ n ∈ names, IsName n) :
    (names.map Component.normal).foldl push [slash] = ofNames names := by
  induction names using List.reverseRecOn with
  | nil => rfl
  | append_singleton names n ih =>
    rw [List.forall_mem_append, List.forall_mem_singleton] at h
    rw [List.map_append, List.foldl_append, ih h.1, List.map_singleton, List.foldl_cons,
      List.foldl_nil, push, join_ofNames h.1 h.2.isAbsolute, ofNames, Text.join_concat]

/-- The components of a path but for the root and a leading point: the steps from where it
starts. -/
def steps (p : Path) : List Component := p.components.filter fun c => c ≠ .root && c ≠ .current

theorem steps_eq (p : Path) :
    p.steps = (p.pieces.filter (!isNoise ·)).map Component.ofPiece := by
  have hpieces : ∀ c ∈ (p.pieces.filter (!isNoise ·)).map Component.ofPiece,
      (c ≠ .root && c ≠ .current) = true := by
    intro c hc
    obtain ⟨piece, -, rfl⟩ := List.mem_map.1 hc
    unfold Component.ofPiece
    split <;> rfl
  rw [steps, components, List.filter_append, List.filter_eq_self.2 hpieces]
  split
  · rfl
  · split <;> rfl

/-- The steps of a path after a path through names are the names and its steps. -/
theorem steps_join (h : ∀ n ∈ names, IsName n) (hp : p.isAbsolute = false) :
    steps ((ofNames names).join p) = names.map .normal ++ p.steps := by
  have hseparator : ∀ n ∈ names, slash ∉ n := fun n hn => (h n hn).separator
  have hpieces : pieces ((ofNames names).join p) = [] :: (names ++ p.pieces) := by
    rw [join_ofNames h hp, pieces, Text.splitOn, if_pos rfl, Text.splitOn_flatMap_append hseparator]
    rfl
  have hsolid : names.filter (!isNoise ·) = names :=
    List.filter_eq_self.2 fun n hn => by rw [(h n hn).solid]; rfl
  have hnames : names.map Component.ofPiece = names.map .normal :=
    List.map_congr_left fun n hn => if_neg (h n hn).parent
  rw [steps_eq, steps_eq, hpieces, List.filter_cons_of_neg (by decide), List.filter_append, hsolid,
    List.map_append, hnames]

/-- No path after a path through names starts with two separators. -/
theorem startsWith_join (h : ∀ n ∈ names, IsName n) (hp : p.isAbsolute = false) :
    Text.startsWith [slash, slash] ((ofNames names).join p) = false := by
  have hrest : isAbsolute (names.flatMap (· ++ [slash]) ++ p) = false := by
    cases names with
    | nil => exact hp
    | cons n names =>
      obtain ⟨c, n, rfl⟩ := List.exists_cons_of_ne_nil (h n List.mem_cons_self).ne_nil
      exact (h (c :: n) List.mem_cons_self).isAbsolute
  rw [join_ofNames h hp]
  cases hcut : names.flatMap (· ++ [slash]) ++ p with
  | nil => rfl
  | cons c rest =>
    rw [hcut] at hrest
    have hc : slash ≠ c := by
      rintro rfl
      cases hrest
    rw [Text.startsWith, Text.afterStart?, if_pos rfl, Text.afterStart?, if_neg hc]
    rfl

/-- **A path from a directory and the path from the root that it is** have one absolute form. -/
theorem absolute?_join (h : ∀ n ∈ names, IsName n) (hne : p ≠ []) :
    absolute? (ofNames names) ((ofNames names).join p) = absolute? (ofNames names) p := by
  cases hp : p.isAbsolute with
  | true => rw [join, hp, if_pos rfl]
  | false =>
    have hroot : ((ofNames names).join p).isAbsolute = true := isAbsolute_join rfl p
    have hnonempty : (ofNames names).join p ≠ [] := by
      rw [join_ofNames h hp]
      exact List.cons_ne_nil _ _
    have hlast := getLast?_join_ofNames h hp hne
    have hsteps : (steps ((ofNames names).join p)).foldl push [slash] =
        p.steps.foldl push (ofNames names) := by
      rw [steps_join h hp, List.foldl_append, foldl_push_ofNames h]
    rw [steps, steps] at hsteps
    rw [absolute?, absolute?, if_neg hnonempty, if_neg hne, hroot, hp, startsWith_join h hp, hlast]
    simp only [Bool.false_and, Bool.false_eq_true, if_true, if_false, hsteps]

/-! ## The directory of a path -/

/-- The pieces of a path that stand for components. -/
def solids (ps : List Bytes) : List Bytes := ps.filter (!isNoise ·)

/-- What stands before the pieces is one component, or nothing. -/
theorem length_components (p : Path) :
    p.components.length = p.startLength + (solids p.pieces).length := by
  rw [components, List.length_append, List.length_map, startLength, solids]
  cases p.isAbsolute with
  | true => rfl
  | false => cases p.startsCurrent <;> rfl

/-- The root and a leading point leave the pieces after them. -/
theorem solids_drop_startLength (p : Path) :
    solids (pieces (p.drop p.startLength)) = solids p.pieces := by
  cases p with
  | nil => rfl
  | cons c t =>
    by_cases hroot : c = slash
    · subst hroot
      rfl
    · have habsolute : isAbsolute (c :: t) = false :=
        decide_eq_false fun h => hroot (Option.some.inj h)
      rw [startLength, habsolute, Bool.false_or]
      cases hcurrent : startsCurrent (c :: t) with
      | false => rfl
      | true =>
        -- The first piece is the point, so a separator comes after it, or nothing.
        have hfirst : (pieces (c :: t)).head? = some [dot] := of_decide_eq_true hcurrent
        have hrest : pieces ((c :: t).drop 1) = Text.splitOn slash t := rfl
        rw [if_pos rfl, hrest]
        rw [pieces, Text.splitOn, if_neg hroot] at hfirst ⊢
        cases hsplit : Text.splitOn slash t with
        | nil =>
          rw [hsplit] at hfirst
          rw [Option.some.inj hfirst]
          rfl
        | cons q qs =>
          rw [hsplit] at hfirst
          obtain ⟨rfl, rfl⟩ := List.cons.inj (Option.some.inj hfirst)
          rfl

/-- Noise at the end of a list goes without a piece of another kind. -/
theorem length_solids_dropWhile (ps : List Bytes) :
    (solids (ps.dropWhile isNoise)).length = (solids ps).length := by
  induction ps with
  | nil => rfl
  | cons q ps ih =>
    cases hq : isNoise q with
    | true =>
      have hdrop : solids (q :: ps) = solids ps := List.filter_cons_of_neg (by simp [hq])
      rw [List.dropWhile_cons_of_pos hq, ih, hdrop]
    | false => rw [List.dropWhile_cons_of_neg (by simp [hq])]

/-- What is left without the noise in front starts with a piece of another kind, if there is one. -/
theorem isNoise_of_dropWhile_eq {ps qs : List Bytes} {q : Bytes}
    (h : ps.dropWhile isNoise = q :: qs) : isNoise q = false := by
  have hfirst := List.head?_dropWhile_not isNoise ps
  rw [h] at hfirst
  exact hfirst

/-- What is left without the noise in front has one piece of another kind more than the rest of
it. -/
theorem length_solids_of_dropWhile_eq {ps qs : List Bytes} {q : Bytes}
    (h : ps.dropWhile isNoise = q :: qs) : (solids ps).length = (solids qs).length + 1 := by
  have hsolid : solids (q :: qs) = q :: solids qs :=
    List.filter_cons_of_pos (by simp [isNoise_of_dropWhile_eq h])
  rw [← length_solids_dropWhile ps, h, hsolid, List.length_cons]

theorem length_solids_reverse (ps : List Bytes) :
    (solids ps.reverse).length = (solids ps).length := by
  rw [solids, solids, List.filter_reverse, List.length_reverse]

/-- Parts that are not all empty make a text. -/
theorem join_ne_nil {names : List Bytes} {n : Bytes} (hn : n ∈ names) (hne : n ≠ []) :
    Text.join [slash] names ≠ [] := by
  cases names with
  | nil => cases hn
  | cons m names =>
    rw [Text.join_cons]
    intro hnil
    obtain ⟨rfl, hrest⟩ := List.append_eq_nil_iff.1 hnil
    rcases List.mem_cons.1 hn with rfl | hn
    · exact hne rfl
    · exact absurd (List.flatMap_eq_nil_iff.1 hrest n hn) (List.cons_ne_nil _ _)

/-- Nothing stands before the pieces exactly if it has no characters. -/
theorem take_startLength_eq_nil_iff (p : Path) : p.take p.startLength = [] ↔ p.startLength = 0 := by
  rw [List.take_eq_nil_iff]
  refine ⟨fun h => h.elim id ?_, .inl⟩
  rintro rfl
  rfl

/-- **A path of one component has no directory part**, and no other path is without one. -/
theorem isCompound_eq_false_iff (p : Path) :
    p.isCompound = false ↔ ∀ base, p.parent? = some base → base = [] := by
  have hle : p.startLength ≤ 1 := by
    unfold startLength
    split <;> omega
  have hlength := p.length_components
  rw [← solids_drop_startLength, ← length_solids_reverse] at hlength
  rw [isCompound, decide_eq_false_iff_not, hlength, parent?]
  generalize (pieces (p.drop p.startLength)).reverse = ps
  cases hlast : ps.dropWhile isNoise with
  | nil =>
    have hnone : (solids ps).length = 0 := by
      rw [← length_solids_dropWhile, hlast]
      rfl
    refine iff_of_true (by omega) fun base hbase => ?_
    dsimp only at hbase
    split at hbase
    · exact (Option.some.inj hbase).symm
    · cases hbase
  | cons last before =>
    simp only [length_solids_of_dropWhile_eq hlast, Option.some.injEq, forall_eq']
    cases hkept : before.dropWhile isNoise with
    | nil =>
      have hnone : (solids before).length = 0 := by
        rw [← length_solids_dropWhile, hkept]
        rfl
      show _ ↔ p.take p.startLength ++ [] = []
      rw [List.append_nil, take_startLength_eq_nil_iff]
      omega
    | cons n kept =>
      have hmany := length_solids_of_dropWhile_eq hkept
      have hne : n ≠ [] := by
        rintro rfl
        cases isNoise_of_dropWhile_eq hkept
      refine iff_of_false (by omega) fun hnil => ?_
      exact join_ne_nil (List.mem_reverse.2 List.mem_cons_self) hne
        (List.append_eq_nil_iff.1 hnil).2

/-- The directory of a path from the root is one from the root. -/
theorem isAbsolute_of_parent? {p base : Path} (hp : p.isAbsolute = true)
    (h : p.parent? = some base) : base.isAbsolute = true := by
  cases p with
  | nil => cases hp
  | cons c t =>
    have hstart : startLength (c :: t) = 1 := if_pos (by rw [hp, Bool.true_or])
    have hcurrent : startsCurrent (c :: t) = false := by
      obtain rfl : c = slash := Option.some.inj (of_decide_eq_true hp)
      rfl
    rw [parent?, hstart, hcurrent] at h
    split at h
    · cases h
    · obtain rfl := Option.some.inj h
      have hroot : isAbsolute ((c :: t).take 1) = true := hp
      exact isAbsolute_append hroot _

end Path
end Doctest
