import LineBasic.Proofs.Program
import Mathlib.Data.List.Duplicate

/-!
# Programs and the order in which their lines are given

Lines are given in any order, and only their numbers decide what becomes of them. If the numbers are
distinct, the program has the lines that are given, each once, in the order of their numbers. If one
occurs twice, the least such number is the fault. So lines in another order give the same program or
the same fault (`ofLines_perm`).
-/

namespace LineBasic

namespace Program

def numbers (lines : List Line) : List Nat := lines.map Line.number

/-- A number occurs twice in a list, and no smaller number does. -/
def LeastRepeated (n : Nat) (ns : List Nat) : Prop :=
  ns.Duplicate n ∧ ∀ k, ns.Duplicate k → n ≤ k

variable {lines lines' : List Line} {n : Nat}

theorem LeastRepeated.unique {k : Nat} {ns : List Nat} (hn : LeastRepeated n ns)
    (hk : LeastRepeated k ns) : n = k :=
  Nat.le_antisymm (hn.2 k hk.1) (hk.2 n hn.1)

theorem LeastRepeated.perm {ns ms : List Nat} (h : LeastRepeated n ns) (hperm : ns.Perm ms) :
    LeastRepeated n ms := by
  have hsame (k : Nat) : ns.Duplicate k ↔ ms.Duplicate k := by
    rw [List.duplicate_iff_two_le_count, List.duplicate_iff_two_le_count, hperm.count_eq]
  exact ⟨(hsame n).mp h.1, fun k hk => h.2 k ((hsame k).mpr hk)⟩

theorem sort_perm (lines : List Line) : (sort lines).Perm lines := List.mergeSort_perm _ _

/-- Among sorted lines the first number that two neighbours share is the least one that two lines
share. -/
theorem leastRepeated_of_repeated? (hsorted : lines.Pairwise fun a b => a.number ≤ b.number)
    (h : repeated? lines = some n) : LeastRepeated n (numbers lines) := by
  induction lines with
  | nil => cases h
  | cons a rest ih =>
      cases rest with
      | nil => cases h
      | cons b rest =>
          rw [repeated?] at h
          split at h
          · next hsame =>
            cases h
            refine ⟨List.Mem.duplicate_cons_self (by simp [hsame]), fun k hk => ?_⟩
            obtain ⟨line, hline, rfl⟩ := List.mem_map.mp hk.mem
            rcases List.mem_cons.mp hline with rfl | hline
            · exact Nat.le_refl _
            · exact List.rel_of_pairwise_cons hsorted hline
          · next hdistinct =>
            obtain ⟨hduplicate, hleast⟩ := ih hsorted.of_cons h
            refine ⟨hduplicate.duplicate_cons a.number, fun k hk => ?_⟩
            rcases List.duplicate_cons_iff.mp hk with ⟨rfl, hmem⟩ | hk
            · -- every line behind the first one has a greater number than it
              obtain ⟨line, hline, hnumber⟩ := List.mem_map.mp hmem
              have hab : a.number ≤ b.number := List.rel_of_pairwise_cons hsorted (by simp)
              have hbline : b.number ≤ line.number := by
                rcases List.mem_cons.mp hline with rfl | hline
                · exact Nat.le_refl _
                · exact List.rel_of_pairwise_cons hsorted.of_cons hline
              omega
            · exact hleast k hk

theorem nodup_of_ascending (h : lines.Pairwise fun a b => a.number < b.number) :
    (numbers lines).Nodup :=
  List.pairwise_map.mpr (h.imp Nat.ne_of_lt)

/-- What becomes of lines: the program that has them, or the least repeated number. -/
theorem ofLines_cases (lines : List Line) :
    ((numbers lines).Nodup ∧ ∃ p, ofLines lines = .ok p ∧ p.lines.Perm lines) ∨
      ∃ n, LeastRepeated n (numbers lines) ∧
        ofLines lines = .error (.parse (.repeatedLine n) (some n)) := by
  have hnumbers : (numbers (sort lines)).Perm (numbers lines) := (sort_perm lines).map _
  unfold ofLines
  split
  · next n hn =>
    exact .inr ⟨n, (leastRepeated_of_repeated? (sort_pairwise lines) hn).perm hnumbers, rfl⟩
  · next hnone =>
    have hascending := pairwise_of_sorted (sort_pairwise lines) hnone
    exact .inl ⟨hnumbers.nodup_iff.mp (nodup_of_ascending hascending), _, rfl, sort_perm lines⟩

theorem ofLines_of_nodup (h : (numbers lines).Nodup) :
    ∃ p, ofLines lines = .ok p ∧ p.lines.Perm lines := by
  rcases ofLines_cases lines with ⟨-, hp⟩ | ⟨n, hn, -⟩
  · exact hp
  · exact absurd h hn.1.not_nodup

theorem ofLines_of_not_nodup (h : ¬ (numbers lines).Nodup) :
    ∃ n, LeastRepeated n (numbers lines) ∧
      ofLines lines = .error (.parse (.repeatedLine n) (some n)) := by
  rcases ofLines_cases lines with ⟨hnodup, -⟩ | hn
  · exact absurd hnodup h
  · exact hn

/-- Two programs with the same lines are the same. -/
theorem eq_of_perm {p q : Program} (h : p.lines.Perm q.lines) : p = q := by
  have hlines : p.lines = q.lines :=
    h.eq_of_pairwise (fun a b _ _ hab hba => absurd hab (Nat.lt_asymm hba)) p.ascending q.ascending
  cases p
  cases q
  cases hlines
  rfl

/-- The order in which lines are given makes no difference. -/
theorem ofLines_perm (h : lines.Perm lines') : ofLines lines = ofLines lines' := by
  have hnumbers : (numbers lines).Perm (numbers lines') := h.map _
  by_cases hnodup : (numbers lines).Nodup
  · obtain ⟨p, hp, hlines⟩ := ofLines_of_nodup hnodup
    obtain ⟨p', hp', hlines'⟩ := ofLines_of_nodup (hnumbers.nodup_iff.mp hnodup)
    rw [hp, hp', eq_of_perm (hlines.trans (h.trans hlines'.symm))]
  · obtain ⟨n, hn, he⟩ := ofLines_of_not_nodup hnodup
    obtain ⟨k, hk, he'⟩ := ofLines_of_not_nodup (mt hnumbers.nodup_iff.mpr hnodup)
    rw [he, he', (hn.perm hnumbers).unique hk]

end Program

end LineBasic
