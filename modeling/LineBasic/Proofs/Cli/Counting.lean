import LineBasic.Cli.Command
import LineBasic.Proofs.Program.Reordering
import LineBasic.Proofs.Table
import Mathlib.Algebra.BigOperators.Group.List.Lemmas
import Mathlib.Algebra.GroupWithZero.Nat

/-!
# Counting the statements of a program

A check lists the words that start the lines of a program, with the number of lines that each of
them starts. What such a listing has to be is said by the lines alone, and leaves only one
(`Tally.unique`). The check shows this one, and the order of the rows of the source makes no
difference to what it shows (`check_shows_tally`).
-/

namespace LineBasic.Cli

/-! ## Counting words -/

section Words

variable (words : List String) (w : String)

theorem countWords_concat : countWords (words ++ [w]) =
    (countWords words).insert w (((countWords words).get? w).getD 0 + 1) := by
  simp [countWords]

/-- After every word, each word reads how often it has occurred. -/
theorem getD_countWords : ((countWords words).get? w).getD 0 = words.count w := by
  induction words using List.reverseRecOn generalizing w with
  | nil => rfl
  | append_singleton words last ih =>
      rw [countWords_concat, Table.get?_insert, ih, List.count_append, List.count_singleton]
      by_cases hlast : last = w
      · simp [hlast]
      · simp [hlast, ih]

/-- After every word, the words that have occurred stand in the order in which they first did. -/
theorem keys_countWords : (countWords words).keys = words.eraseDups := by
  induction words using List.reverseRecOn with
  | nil => rfl
  | append_singleton words last ih =>
      rw [countWords_concat, Table.keys_insert_of_eraseDups ih]

theorem entries_countWords :
    (countWords words).entries = words.eraseDups.map fun w => (w, words.count w) := by
  have hnodup : (countWords words).keys.Nodup := by
    rw [keys_countWords]
    exact Table.nodup_eraseDups words
  rw [Table.entries_eq_map hnodup 0, keys_countWords]
  simp only [getD_countWords]

/-- The counts of the words that occur add up to the number of words. -/
theorem sum_count_eraseDups : (words.eraseDups.map fun w => words.count w).sum = words.length := by
  have hperm : words.eraseDups.Perm words.dedup :=
    (List.perm_ext_iff_of_nodup (Table.nodup_eraseDups words) words.nodup_dedup).mpr
      (by simp [List.mem_eraseDups])
  rw [(hperm.map _).sum_eq, List.sum_map_count_dedup_eq_length]

end Words

/-! ## Sorting by a count -/

section Sorting

variable {α : Type} (key : α → Nat)

theorem desc_trans (a b c : α) (hab : decide (key b ≤ key a) = true)
    (hbc : decide (key c ≤ key b) = true) : decide (key c ≤ key a) = true := by
  rw [decide_eq_true_eq] at hab hbc ⊢
  exact Nat.le_trans hbc hab

theorem desc_total (a b : α) : (decide (key b ≤ key a) || decide (key a ≤ key b)) = true := by
  rw [Bool.or_eq_true, decide_eq_true_eq, decide_eq_true_eq]
  exact Nat.le_total _ _

/-- Sorting leaves the elements with one count in the order in which they stood. -/
theorem filter_mergeSort_desc (l : List α) (n : Nat) :
    (l.mergeSort fun a b => decide (key b ≤ key a)).filter (key · == n) =
      l.filter (key · == n) := by
  have htied : (l.filter (key · == n)).Pairwise fun a b => decide (key b ≤ key a) = true := by
    refine List.pairwise_of_forall_mem_list fun a ha b hb => ?_
    simp only [List.mem_filter, beq_iff_eq] at ha hb
    simp [ha.2, hb.2]
  have hsub := (List.sublist_mergeSort (desc_trans key) (desc_total key) htied
    List.filter_sublist).filter (key · == n)
  have hlength := ((List.mergeSort_perm l fun a b => decide (key b ≤ key a)).filter
    (key · == n)).length_eq
  rw [List.filter_filter] at hsub
  simp only [Bool.and_self] at hsub
  exact (hsub.eq_of_length hlength.symm).symm

/-- Sorted elements with equal counts are related as they were before. -/
theorem pairwise_mergeSort_desc {l : List α} {before : α → α → Prop} (h : l.Pairwise before) :
    (l.mergeSort fun a b => decide (key b ≤ key a)).Pairwise fun a b =>
      key b < key a ∨ key a = key b ∧ before a b := by
  have hsorted := List.pairwise_mergeSort (desc_trans key) (desc_total key) l
  rw [List.pairwise_iff_forall_sublist] at h hsorted ⊢
  intro a b hab
  rcases Nat.lt_or_eq_of_le (of_decide_eq_true (hsorted hab)) with hlt | hsame
  · exact .inl hlt
  · -- the two are left by the filter, which has them in the order in which they stood
    have htied := hab.filter (key · == key b)
    rw [filter_mergeSort_desc, List.filter_eq_self.mpr (by simp [hsame])] at htied
    exact .inr ⟨hsame.symm, h (htied.trans List.filter_sublist)⟩

end Sorting

/-! ## Listings of a program -/

/-- Some line that starts with the first word comes before all lines that start with the second. -/
def MetBefore (lines : List Line) (w w' : String) : Prop :=
  ∃ l ∈ lines, l.instruction.keyword = w ∧
    ∀ l' ∈ lines, l'.instruction.keyword = w' → l.number < l'.number

section Met

variable {lines : List Line} {last : Line} {w w' : String}

theorem MetBefore.asymm (h : MetBefore lines w w') : ¬ MetBefore lines w' w := by
  rintro ⟨l', hl', hw', hbefore'⟩
  obtain ⟨l, hl, hw, hbefore⟩ := h
  exact Nat.lt_asymm (hbefore l' hl' hw') (hbefore' l hl hw)

/-- A line behind all others leaves the order in which words are met as it is. -/
theorem MetBefore.concat (h : MetBefore lines w w')
    (hlast : ∀ l ∈ lines, l.number < last.number) : MetBefore (lines ++ [last]) w w' := by
  obtain ⟨l, hl, hw, hbefore⟩ := h
  refine ⟨l, List.mem_append_left _ hl, hw, fun l' hl' hw' => ?_⟩
  rcases List.mem_append.mp hl' with hl' | hl'
  · exact hbefore l' hl' hw'
  · rw [List.mem_singleton.mp hl']
    exact hlast l hl

/-- A word that is new with the last line is met after all others. -/
theorem metBefore_last (hlast : ∀ l ∈ lines, l.number < last.number)
    (hnew : ∀ l ∈ lines, l.instruction.keyword ≠ last.instruction.keyword) {l : Line}
    (hl : l ∈ lines) :
    MetBefore (lines ++ [last]) l.instruction.keyword last.instruction.keyword := by
  refine ⟨l, List.mem_append_left _ hl, rfl, fun l' hl' hw' => ?_⟩
  rcases List.mem_append.mp hl' with hl' | hl'
  · exact absurd hw' (hnew l' hl')
  · rw [List.mem_singleton.mp hl']
    exact hlast l hl

/-- The words that start ascending lines, by first occurrence, are in the order in which they are
met. -/
theorem pairwise_metBefore (h : lines.Pairwise fun a b => a.number < b.number) :
    (lines.map (·.instruction.keyword)).eraseDups.Pairwise (MetBefore lines) := by
  induction lines using List.reverseRecOn with
  | nil => exact .nil
  | append_singleton lines last ih =>
      obtain ⟨hlines, -, hcross⟩ := List.pairwise_append.mp h
      have hlast : ∀ l ∈ lines, l.number < last.number := fun l hl => hcross l hl last (by simp)
      have hkept : (lines.map (·.instruction.keyword)).eraseDups.Pairwise
          (MetBefore (lines ++ [last])) := (ih hlines).imp fun hmet => hmet.concat hlast
      rw [List.map_append, List.map_singleton, Table.eraseDups_concat]
      split
      · exact hkept
      · next hcontains =>
        have hnew : ∀ l ∈ lines, l.instruction.keyword ≠ last.instruction.keyword :=
          fun l hl hsame => hcontains
            (List.contains_iff_mem.mpr (List.mem_map.mpr ⟨l, hl, hsame⟩))
        refine List.pairwise_append.mpr ⟨hkept, by simp, fun w hw w' hw' => ?_⟩
        obtain ⟨l, hl, rfl⟩ := List.mem_map.mp (List.mem_eraseDups.mp hw)
        rw [List.mem_singleton.mp hw']
        exact metBefore_last hlast hnew hl

end Met

/-- What the listing of a program has to be. Each word that starts a line is listed once, with the
number of lines that it starts, and these numbers add up to the number of lines. The most frequent
words come first, and of two that are equally frequent the one that is met first by line number.
Nothing depends on the order in which the lines were given. -/
structure Tally (p : Program) (listing : List (String × Nat)) : Prop where
  once : (listing.map Prod.fst).Nodup
  listed : ∀ w, w ∈ listing.map Prod.fst ↔ ∃ l ∈ p.lines, l.instruction.keyword = w
  counted : ∀ entry ∈ listing,
    entry.2 = p.lines.countP fun l => l.instruction.keyword == entry.1
  total : (listing.map Prod.snd).sum = p.size
  ranked : listing.Pairwise fun a b => b.2 < a.2 ∨ a.2 = b.2 ∧ MetBefore p.lines a.1 b.1

theorem keywordCounts_perm (p : Program) :
    (keywordCounts p).Perm ((p.lines.map (·.instruction.keyword)).eraseDups.map fun w =>
      (w, (p.lines.map (·.instruction.keyword)).count w)) := by
  rw [keywordCounts, entries_countWords]
  exact List.mergeSort_perm _ _

theorem tally_keywordCounts (p : Program) : Tally p (keywordCounts p) := by
  have hperm := keywordCounts_perm p
  have hwords : ((keywordCounts p).map Prod.fst).Perm
      (p.lines.map (·.instruction.keyword)).eraseDups := by
    simpa [Function.comp_def] using hperm.map Prod.fst
  constructor
  · exact hwords.nodup_iff.mpr (Table.nodup_eraseDups _)
  · intro w
    rw [hwords.mem_iff, List.mem_eraseDups, List.mem_map]
  · intro entry hentry
    obtain ⟨w, -, rfl⟩ := List.mem_map.mp (hperm.mem_iff.mp hentry)
    rw [List.count, List.countP_map]
    rfl
  · rw [(hperm.map Prod.snd).sum_eq, List.map_map]
    exact (sum_count_eraseDups _).trans (List.length_map _)
  · rw [keywordCounts, entries_countWords]
    exact pairwise_mergeSort_desc Prod.snd
      (List.pairwise_map.mpr (pairwise_metBefore p.ascending))

section Unique

variable {p : Program} {listing listing' : List (String × Nat)}

theorem Tally.subset (h : Tally p listing) (h' : Tally p listing') : listing ⊆ listing' := by
  intro entry hentry
  have hword := (h.listed entry.1).mp (List.mem_map_of_mem hentry)
  obtain ⟨other, hother, hsame⟩ := List.mem_map.mp ((h'.listed entry.1).mpr hword)
  have hcount : other.2 = entry.2 := by
    rw [h'.counted other hother, h.counted entry hentry, hsame]
  exact Prod.ext hsame hcount ▸ hother

/-- Only one listing is what the listing of a program has to be. -/
theorem Tally.unique (h : Tally p listing) (h' : Tally p listing') : listing = listing' := by
  have hperm : listing.Perm listing' :=
    (List.perm_ext_iff_of_nodup h.once.of_map h'.once.of_map).mpr fun _ =>
      ⟨fun hentry => h.subset h' hentry, fun hentry => h'.subset h hentry⟩
  refine hperm.eq_of_pairwise (fun a b _ _ hab hba => ?_) h.ranked h'.ranked
  -- no two entries are ranked both ways
  rcases hab with hab | ⟨hsame, hab⟩
  · exact absurd hba (by omega)
  · rcases hba with hba | ⟨-, hba⟩
    · omega
    · exact absurd hba hab.asymm

end Unique

/-! ## The text of a check -/

/-- A row of a listing: the word, blanks behind it, and the count. -/
def IsRow (entry : String × Nat) (row : String) : Prop :=
  ∃ gap, row = "  " ++ entry.1 ++ String.ofList (List.replicate (gap + 1) ' ') ++
    Decimal.intText entry.2 ++ "\n"

theorem isRow_countLine (entry : String × Nat) : IsRow entry (countLine entry) := by
  refine ⟨8 - entry.1.length, String.toList_inj.mp ?_⟩
  simp [countLine, padRight, List.replicate_succ']

theorem check_of_load {source : String} {p : Program} (h : Program.load source = .ok p) :
    check source = .exit 0 (summary p) "" := by
  rw [check, h]

/-- The check of a source that can be loaded ends well. It shows the number of lines and the one
listing of the program, a row for each word, and shows the same for every source with the same rows
in another order. -/
theorem check_shows_tally {source : String} {p : Program} (h : Program.load source = .ok p) :
    check source = .exit 0 ("PARSE OK\nLines parsed: " ++ Decimal.intText p.size ++
        "\nStatement counts:\n" ++ String.join ((keywordCounts p).map countLine)) "" ∧
      (∀ entry ∈ keywordCounts p, IsRow entry (countLine entry)) ∧
      (∀ listing, Tally p listing ↔ listing = keywordCounts p) ∧
      ∀ source', (Program.shownTexts source').Perm (Program.shownTexts source) →
        check source' = check source := by
  refine ⟨?_, ?_, ?_, ?_⟩
  · rw [check_of_load h]
    unfold summary
    rfl
  · exact fun entry _ => isRow_countLine entry
  · intro listing
    constructor
    · intro hlisting
      exact hlisting.unique (tally_keywordCounts p)
    · rintro rfl
      exact tally_keywordCounts p
  · intro source' hperm
    rw [check_of_load (Program.load_of_perm hperm h), check_of_load h]

/-- A source in no order. `IF` and `END` start one line each, and the line that is written first has
the higher number. What stands in its branches is not counted. -/
def scatteredSource : String := "20 IF 1 THEN CLC ELSE END\n10 END\n30 CLS\n40 CLS"

/-- The program of this source. -/
def scatteredProgram : Program where
  lines := [{ number := 10, instruction := .command .halt },
    { number := 20, instruction :=
        .branch { text := "1", tree := .number "1" } .clearDisplay (some .halt) },
    { number := 30, instruction := .command .clearAll },
    { number := 40, instruction := .command .clearAll }]

theorem load_scattered : Program.load scatteredSource = .ok scatteredProgram := by
  have hlines : ∃ lines, (Program.shownTexts scatteredSource).mapM parseLine = .ok lines ∧
      lines.Perm scatteredProgram.lines :=
    ⟨_, by with_unfolding_all rfl, .swap _ _ _⟩
  obtain ⟨lines, hread, hperm⟩ := hlines
  rw [Program.load_eq_mapM, hread]
  exact (Program.ofLines_perm hperm).trans (Program.ofLines_of_ascending scatteredProgram.ascending)

theorem tally_scattered : Tally scatteredProgram [("CLS", 2), ("END", 1), ("IF", 1)] where
  once := by decide
  listed w := by
    have hleft : ["CLS", "END", "IF"] ⊆ scatteredProgram.lines.map (·.instruction.keyword) := by
      decide
    have hright : scatteredProgram.lines.map (·.instruction.keyword) ⊆ ["CLS", "END", "IF"] := by
      decide
    rw [← List.mem_map]
    exact ⟨fun h => hleft h, fun h => hright h⟩
  counted := by decide
  total := rfl
  ranked := by
    have hmet : MetBefore scatteredProgram.lines "END" "IF" :=
      ⟨{ number := 10, instruction := .command .halt }, by simp [scatteredProgram], rfl, by decide⟩
    simp [hmet]

theorem check_shows_tally_scattered :
    Program.load scatteredSource = .ok scatteredProgram ∧
      check scatteredSource = .exit 0 ("PARSE OK\nLines parsed: 4\nStatement counts:\n" ++
        "  CLS      2\n  END      1\n  IF       1\n") "" ∧
      check "30 CLS\r\n\n40 CLS\n\t10 END\n20 IF 1 THEN CLC ELSE END" = check scatteredSource := by
  obtain ⟨htext, -, hlisting, horder⟩ := check_shows_tally load_scattered
  refine ⟨load_scattered, ?_, horder _ ?_⟩
  · rw [htext, ← (hlisting _).mp tally_scattered]
    rfl
  · decide +kernel

end LineBasic.Cli
