import LineBasic.Proofs.Computation
import LineBasic.Proofs.Machine.Numerals
import LineBasic.Proofs.Value.Arrays
import LineBasic.Value.Text
import Mathlib.Data.List.Perm.Subperm

/-!
# What is shown of arrays

The text of an array joins the texts of its elements, and these may be arrays in turn. An array that
contains itself, directly or through others, has no text, and neither has anything that reaches it.
Everything else has one: on the way down no array comes twice, so the depth is bounded by the number
of arrays in the store.
-/

namespace LineBasic

/-! ## Joining texts -/

theorem joinTexts_eq_ok {render : Value → Except Fault String} {values : List Value}
    {text : String} : joinTexts render values = .ok text ↔
      ∃ texts, List.Forall₂ (fun v t => render v = .ok t) values texts ∧
        text = String.intercalate ", " texts := by
  unfold joinTexts
  rw [bind_eq_ok]
  constructor
  · rintro ⟨texts, htexts, h⟩
    cases h
    exact ⟨texts, mapM_eq_ok.mp htexts, rfl⟩
  · rintro ⟨texts, htexts, rfl⟩
    exact ⟨texts, mapM_eq_ok.mpr htexts, rfl⟩

/-! ## Numbers -/

section Numbers

namespace Binary

variable {x : Float} {n : Int} {negative : Bool} {m : Nat} {e : Int}

/-- The ranges of the mantissa and of the exponent. -/
theorem bounds_of_view (h : view x = .finite negative m e) : m < 2 ^ 53 ∧ e ≤ 971 := by
  unfold view at h
  simp only [Nat.pow_eq] at h
  split at h
  · split at h <;> cases h
  · split at h <;> cases h <;> constructor <;> omega

theorem natAbs_signed (negative : Bool) (m : Nat) : (signed negative m).natAbs = m := by
  cases negative <;> simp [signed]

/-- The largest finite number is far below the limit on the digits of an integer. -/
theorem shifted_lt {k : Nat} (hm : m < 2 ^ 53) (hk : k ≤ 971) :
    m * 2 ^ k < 10 ^ Decimal.digitLimit := by
  have hexponent : 53 + k ≤ Decimal.digitLimit := by
    unfold Decimal.digitLimit
    omega
  calc m * 2 ^ k < 2 ^ 53 * 2 ^ k := Nat.mul_lt_mul_of_pos_right hm (Nat.two_pow_pos k)
    _ = 2 ^ (53 + k) := (Nat.pow_add 2 53 k).symm
    _ ≤ 10 ^ (53 + k) := Nat.pow_le_pow_left (by decide) (53 + k)
    _ ≤ 10 ^ Decimal.digitLimit := Nat.pow_le_pow_right (by decide) hexponent

theorem ratio_lt (hm : m < 2 ^ 53) (he : e ≤ 971) : (ratio m e).1 < 10 ^ Decimal.digitLimit := by
  unfold ratio scaleDown
  split
  · simpa using shifted_lt hm (Nat.zero_le 971)
  · exact shifted_lt hm (by omega)

theorem natAbs_lt_of_toInt? (h : toInt? x = some n) : n.natAbs < 10 ^ Decimal.digitLimit := by
  unfold toInt? at h
  split at h
  · next negative m e hview =>
    obtain ⟨hm, he⟩ := bounds_of_view hview
    simp only at h
    split at h
    · cases h
      rw [natAbs_signed]
      exact Nat.lt_of_le_of_lt (Nat.div_le_self _ _) (ratio_lt hm he)
    · cases h
  · cases h

end Binary

theorem Number.exists_displayText {x : Number}
    (h : ∀ n, x = .int n → n.natAbs < 10 ^ Decimal.digitLimit) :
    ∃ text, x.displayText = .ok text := by
  cases x with
  | int n => exact ⟨_, displayText_int (h n rfl)⟩
  | real x =>
      cases hx : Binary.toInt? x with
      | some n =>
          have hint : displayText (.real x) = displayText (.int n) := by
            simp only [displayText, hx]
          exact ⟨_, hint.trans (displayText_int (Binary.natAbs_lt_of_toInt? hx))⟩
      | none =>
          simp only [displayText, hx]
          exact ⟨_, rfl⟩
  | complex re im => exact ⟨_, rfl⟩

end Numbers

namespace Heap

variable {h : Heap} {ref depth depth' : Nat} {v w : Value} {text text' : String}

/-! ## Texts and cycles -/

/-- An array that contains itself, directly or through others. -/
def Circular (h : Heap) (ref : Nat) : Prop :=
  ∃ w ∈ (h.cells ref).values, h.Reaches w (.array ref)

/-- The texts of values: of an array the texts of its elements, joined. -/
inductive Shows (h : Heap) : Value → String → Prop where
  | number {x : Number} {text : String} (hx : x.displayText = .ok text) : Shows h (.number x) text
  | text (s : String) : Shows h (.text s) s
  | truth (b : Bool) : Shows h (.truth b) (if b then "-1" else "0")
  | nothing : Shows h .nothing "None"
  | array {ref : Nat} {texts : List String}
      (helements : List.Forall₂ (Shows h) (h.cells ref).values texts) :
      Shows h (.array ref) (String.intercalate ", " texts)

/-- The text of an array comes from texts of its elements one level below. -/
theorem displayWithin_array : h.displayWithin depth (.array ref) = .ok text ↔
    ∃ below texts, depth = below + 1 ∧
      List.Forall₂ (fun v t => h.displayWithin below v = .ok t) (h.cells ref).values texts ∧
      text = String.intercalate ", " texts := by
  cases depth with
  | zero =>
      rw [displayWithin]
      constructor
      · intro hfault
        cases hfault
      · rintro ⟨_, _, hzero, -⟩
        cases hzero
  | succ below =>
      rw [displayWithin, joinTexts_eq_ok]
      constructor
      · rintro ⟨texts, htexts, rfl⟩
        exact ⟨below, texts, rfl, htexts, rfl⟩
      · rintro ⟨below', texts, hbelow, htexts, rfl⟩
        cases hbelow
        exact ⟨texts, htexts, rfl⟩

/-- The depth does not matter to values that are not arrays. -/
theorem displayWithin_of_isPlain (hplain : v.IsPlain) :
    h.displayWithin depth v = h.displayWithin depth' v := by
  cases v with
  | array ref => exact absurd rfl (hplain ref)
  | number x => simp only [displayWithin]
  | text s => simp only [displayWithin]
  | truth b => simp only [displayWithin]
  | nothing => simp only [displayWithin]

theorem displayWithin_mono (htext : h.displayWithin depth v = .ok text) (hle : depth ≤ depth') :
    h.displayWithin depth' v = .ok text := by
  induction depth generalizing depth' v text with
  | zero =>
      cases v with
      | array ref => rw [displayWithin] at htext; cases htext
      | _ => rwa [displayWithin_of_isPlain (by simp)]
  | succ below ih =>
      cases v with
      | array ref =>
          obtain ⟨below', rfl⟩ : ∃ below', depth' = below' + 1 :=
            Nat.exists_eq_add_one.mpr (Nat.lt_of_lt_of_le (Nat.succ_pos below) hle)
          rw [displayWithin, joinTexts_eq_ok] at htext ⊢
          obtain ⟨texts, htexts, rfl⟩ := htext
          exact ⟨texts, htexts.imp fun v t ht => ih ht (Nat.le_of_succ_le_succ hle), rfl⟩
      | _ => rwa [displayWithin_of_isPlain (by simp)]

/-- What is reached by a value with a text has a text. -/
theorem Reaches.exists_text (hreaches : h.Reaches v w)
    (htext : h.displayWithin depth v = .ok text) : ∃ text, h.displayWithin depth w = .ok text := by
  induction hreaches with
  | self => exact ⟨text, htext⟩
  | element _ hmem ih =>
      obtain ⟨text, htext⟩ := ih
      obtain ⟨below, texts, rfl, htexts, -⟩ := displayWithin_array.mp htext
      obtain ⟨t, ht⟩ := exists_forall₂.mp ⟨texts, htexts⟩ _ hmem
      exact ⟨t, displayWithin_mono ht (Nat.le_succ below)⟩

/-- Nothing that reaches an array that contains itself has a text, to whatever depth. -/
theorem displayWithin_ne_ok (hcircular : h.Circular ref) (hreaches : h.Reaches v (.array ref)) :
    h.displayWithin depth v ≠ .ok text := by
  induction depth generalizing v text with
  | zero =>
      intro htext
      obtain ⟨text, htext⟩ := hreaches.exists_text htext
      cases htext
  | succ below ih =>
      intro htext
      -- the cycle is below some element: of the value itself, or of the array that starts the cycle
      obtain ⟨start, u, rfl, hu, hbelow⟩ :
          ∃ start u, v = .array start ∧ u ∈ (h.cells start).values ∧ h.Reaches u (.array ref) := by
        rcases hreaches.eq_or_head with rfl | hhead
        · obtain ⟨u, hu, hbelow⟩ := hcircular
          exact ⟨ref, u, rfl, hu, hbelow⟩
        · exact hhead
      obtain ⟨below', texts, hdepth, htexts, -⟩ := displayWithin_array.mp htext
      cases hdepth
      obtain ⟨t, ht⟩ := exists_forall₂.mp ⟨texts, htexts⟩ u hu
      exact ih hbelow ht

/-- Distinct arrays of the store, each with an element that reaches the value. -/
structure Above (h : Heap) (path : List Nat) (v : Value) : Prop where
  nodup : path.Nodup
  lt : ∀ a ∈ path, a < h.arrays.size
  leads : ∀ a ∈ path, ∃ w ∈ (h.cells a).values, h.Reaches w v

/-- One level further down, unless the array contains itself. -/
theorem Above.cons {path : List Nat} (habove : h.Above path (.array ref))
    (href : ref < h.arrays.size) (hacyclic : ¬h.Circular ref) {u : Value}
    (hu : u ∈ (h.cells ref).values) : h.Above (ref :: path) u where
  nodup := List.nodup_cons.mpr ⟨fun hmem => hacyclic (habove.leads ref hmem), habove.nodup⟩
  lt := List.forall_mem_cons.mpr ⟨href, habove.lt⟩
  leads := List.forall_mem_cons.mpr
    ⟨⟨u, hu, .self⟩, fun a ha =>
      let ⟨w, hw, hreaches⟩ := habove.leads a ha
      ⟨w, hw, .element hreaches hu⟩⟩

theorem Above.length_lt {path : List Nat} (habove : h.Above path (.array ref))
    (href : ref < h.arrays.size) (hacyclic : ¬h.Circular ref) : path.length < h.arrays.size := by
  have hnodup : (ref :: path).Nodup :=
    List.nodup_cons.mpr ⟨fun hmem => hacyclic (habove.leads ref hmem), habove.nodup⟩
  have hlt : ∀ a ∈ ref :: path, a < h.arrays.size := List.forall_mem_cons.mpr ⟨href, habove.lt⟩
  have hsubset : ref :: path ⊆ List.range h.arrays.size := fun a ha => List.mem_range.mpr (hlt a ha)
  exact Nat.lt_of_succ_le (by simpa using (hnodup.subperm hsubset).length_le)

/-- Where no cycle is reached and every number has a text, there is a text. No path downwards is
longer than the store, since no array comes twice on it. -/
theorem exists_displayWithin {path : List Nat} (hclosed : h.Closed)
    (hv : v.Within h.arrays.size) (hacyclic : ∀ ref, h.Reaches v (.array ref) → ¬h.Circular ref)
    (hnumbers : ∀ x, h.Reaches v (.number x) → ∃ text, x.displayText = .ok text)
    (habove : h.Above path v) (hdepth : h.arrays.size ≤ depth + path.length) :
    ∃ text, h.displayWithin depth v = .ok text := by
  induction depth generalizing v path with
  | zero =>
      cases v with
      | array ref =>
          have hlt := habove.length_lt (hv ref rfl) (hacyclic ref .self)
          omega
      | number x => exact hnumbers x .self
      | _ => exact ⟨_, rfl⟩
  | succ below ih =>
      cases v with
      | array ref =>
          have helements : ∀ u ∈ (h.cells ref).values, ∃ t, h.displayWithin below u = .ok t := by
            intro u hu
            refine ih (hclosed.values ref u hu) (fun r hr => hacyclic r (hr.head hu))
              (fun x hx => hnumbers x (hx.head hu))
              (habove.cons (hv ref rfl) (hacyclic ref .self) hu) ?_
            rw [List.length_cons]
            omega
          obtain ⟨texts, htexts⟩ := exists_forall₂.mpr helements
          exact ⟨_, displayWithin_array.mpr ⟨below, texts, rfl, htexts, rfl⟩⟩
      | number x => exact hnumbers x .self
      | _ => exact ⟨_, rfl⟩

/-! ## The text of a value -/

/-- A value of the store has a text exactly when it has one to some depth. -/
theorem displayText_eq_ok (hclosed : h.Closed) (hv : v.Within h.arrays.size) :
    h.displayText v = .ok text ↔ ∃ depth, h.displayWithin depth v = .ok text := by
  refine ⟨fun htext => ⟨_, htext⟩, fun ⟨depth, htext⟩ => ?_⟩
  obtain ⟨text', htext'⟩ : ∃ text, h.displayWithin h.arrays.size v = .ok text := by
    refine exists_displayWithin hclosed hv (fun ref hreaches hcircular => ?_)
      (fun x hreaches => ?_) ⟨.nil, nofun, nofun⟩ (Nat.le_refl _)
    · exact displayWithin_ne_ok hcircular hreaches htext
    · obtain ⟨t, ht⟩ := hreaches.exists_text htext
      refine ⟨t, ?_⟩
      rwa [displayWithin] at ht
  have hsame : Except.ok (ε := Fault) text' = .ok text := by
    rw [← displayWithin_mono htext' (Nat.le_max_left _ depth),
      ← displayWithin_mono htext (Nat.le_max_right h.arrays.size _)]
  rw [displayText, htext', hsame]

/-- The text of an array joins the texts of its elements. -/
theorem displayText_array (hclosed : h.Closed) (href : ref < h.arrays.size) :
    h.displayText (.array ref) = .ok text ↔
      ∃ texts, List.Forall₂ (fun v t => h.displayText v = .ok t) (h.cells ref).values texts ∧
        text = String.intercalate ", " texts := by
  constructor
  · intro htext
    obtain ⟨below, texts, hsize, htexts, rfl⟩ := displayWithin_array.mp htext
    have hle : below ≤ h.arrays.size := hsize ▸ Nat.le_succ below
    exact ⟨texts, htexts.imp fun _ _ ht => displayWithin_mono ht hle, rfl⟩
  · rintro ⟨texts, htexts, rfl⟩
    exact (displayText_eq_ok hclosed (Value.within_array.mpr href)).mpr
      ⟨_, displayWithin_array.mpr ⟨_, texts, rfl, htexts, rfl⟩⟩

/-- What is shown of a value is its text. -/
theorem shows_of_displayWithin (htext : h.displayWithin depth v = .ok text) : h.Shows v text := by
  induction depth generalizing v text with
  | zero =>
      cases v with
      | array ref => cases htext
      | number x => exact .number htext
      | text s => cases htext; exact .text _
      | truth b => cases htext; exact .truth b
      | nothing => cases htext; exact .nothing
  | succ below ih =>
      cases v with
      | array ref =>
          obtain ⟨below', texts, hdepth, htexts, rfl⟩ := displayWithin_array.mp htext
          cases hdepth
          exact .array (htexts.imp fun _ _ => ih)
      | number x => exact .number htext
      | text s => cases htext; exact .text _
      | truth b => cases htext; exact .truth b
      | nothing => cases htext; exact .nothing

/-- A value has a text exactly when its arrays have no cycle: a value that reaches an array that
contains itself has none, and every other one, unless an integer of too many digits is reached, has
the text that joins the texts of elements all the way down. -/
theorem text_iff_acyclic {h : Heap} {v : Value} (hclosed : h.Closed)
    (hv : v.Within h.arrays.size) :
    ((∃ ref, h.Reaches v (.array ref) ∧ h.Circular ref) →
      ∃ fault, h.displayText v = .error fault) ∧
    ((∀ ref, h.Reaches v (.array ref) → ¬h.Circular ref) →
      (∀ n, h.Reaches v (.int n) → n.natAbs < 10 ^ Decimal.digitLimit) →
      ∃ text, h.displayText v = .ok text ∧ h.Shows v text) := by
  constructor
  · rintro ⟨ref, hreaches, hcircular⟩
    cases htext : h.displayText v with
    | error fault => exact ⟨fault, rfl⟩
    | ok text => exact absurd htext (displayWithin_ne_ok hcircular hreaches)
  · intro hacyclic hdigits
    have hnumbers (x : Number) (hx : h.Reaches v (.number x)) : ∃ text, x.displayText = .ok text :=
      Number.exists_displayText fun n hn => hdigits n (by rwa [hn] at hx)
    have habove : h.Above [] v := ⟨.nil, nofun, nofun⟩
    obtain ⟨text, htext⟩ := exists_displayWithin hclosed hv hacyclic hnumbers habove (Nat.le_refl _)
    exact ⟨text, htext, shows_of_displayWithin htext⟩

/-- An array that holds itself, and one that holds a third array twice. -/
def knot : Heap :=
  let h : Heap := ((alloc {} .empty).2.alloc .empty).2.alloc .empty |>.2
  (((h.write 0 (.int 0) (.array 0)).write 1 (.int 1) (.array 2)).write 1 (.int 2) (.array 2)).write
    2 (.text "A") (.int 7)

theorem closed_knot : knot.Closed := by
  have hempty := closed_empty.alloc.alloc.alloc
  refine (((hempty.write ?_ ?_).write ?_ ?_).write ?_ ?_).write ?_ ?_ <;>
    simp [Value.within_array, Value.IsPlain.within]

theorem values_knot : (knot.cells 0).values = [.array 0] ∧
    (knot.cells 1).values = [.array 2, .array 2] ∧ (knot.cells 2).values = [.int 7] :=
  ⟨rfl, rfl, rfl⟩

theorem reaches_knot_two (hw : knot.Reaches (.array 2) w) : w = .array 2 ∨ w = .int 7 := by
  induction hw with
  | self => exact .inl rfl
  | element _ hmem ih =>
      rcases ih with hsource | hsource <;> cases hsource
      rw [values_knot.2.2, List.mem_singleton] at hmem
      exact .inr hmem

theorem reaches_knot_one (hw : knot.Reaches (.array 1) w) :
    w = .array 1 ∨ w = .array 2 ∨ w = .int 7 := by
  rcases hw.eq_or_head with rfl | ⟨ref, u, href, hu, hreaches⟩
  · exact .inl rfl
  · cases href
    simp only [values_knot.2.1, List.mem_cons, List.not_mem_nil, or_false, or_self] at hu
    exact .inr (reaches_knot_two (hu ▸ hreaches))

/-- The array that holds itself has no text; the one that holds another array twice has one. -/
theorem text_iff_acyclic_knot :
    (∃ fault, knot.displayText (.array 0) = .error fault) ∧
      ∃ text, knot.displayText (.array 1) = .ok text ∧ knot.Shows (.array 1) text := by
  have hwithin (ref : Nat) (href : ref < 3) : Value.Within knot.arrays.size (.array ref) :=
    Value.within_array.mpr href
  constructor
  · refine (text_iff_acyclic closed_knot (hwithin 0 (by decide))).1 ⟨0, .self, .array 0, ?_, .self⟩
    rw [values_knot.1, List.mem_singleton]
  · refine (text_iff_acyclic closed_knot (hwithin 1 (by decide))).2 ?_ ?_
    · rintro ref hreaches ⟨u, hu, hcycle⟩
      rcases reaches_knot_one hreaches with href | href | href <;> cases href
      · simp only [values_knot.2.1, List.mem_cons, List.not_mem_nil, or_false, or_self] at hu
        subst hu
        rcases reaches_knot_two hcycle with h | h <;> cases h
      · rw [values_knot.2.2, List.mem_singleton] at hu
        subst hu
        rcases hcycle.eq_or_head with h | ⟨_, _, h, _⟩ <;> cases h
    · intro n hreaches
      rcases reaches_knot_one hreaches with h | h | h <;> cases h
      exact Nat.lt_of_lt_of_le (by decide : (7 : Int).natAbs < 10 ^ 1)
        (Nat.pow_le_pow_right (by decide) (by decide))

end Heap

end LineBasic
