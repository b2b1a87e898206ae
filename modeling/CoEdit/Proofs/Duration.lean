import CoEdit.Duration
import CoEdit.Proofs.Number.Digits

/-!
# Texts of durations

The text of a duration counts the largest units first (`Duration.counts`). Each count is read back as a span, and the spans add up to the
duration (`Duration.ofText?_text`), for all durations there are.
-/

namespace CoEdit

namespace Duration

/-- A unit has a name, which is made of letters. -/
def TimeUnit.IsCalled (u : TimeUnit) (name : String) : Prop :=
  ofName? name = some u ∧ name.toList.all isUnitLetter = true ∧ name.toList ≠ []

instance (u : TimeUnit) (name : String) : Decidable (u.IsCalled name) := inferInstanceAs (Decidable (_ ∧ _ ∧ _))

/-- How often a unit is contained in a duration, and how the unit is named there. -/
structure Count where
  amount : Nat
  unit : TimeUnit
  name : String

namespace Count

/-- A count as a span. -/
def span (x : Count) : Span := ⟨Nat.toDigits 10 x.amount, none, x.name.toList⟩

/-- A count as it is written. -/
def written (x : Count) : List Char := Nat.toDigits 10 x.amount ++ x.name.toList

/-- The nanoseconds of a count. -/
def nanoseconds (x : Count) : Nat := x.amount * x.unit.length

theorem nanoseconds_mk (n : Nat) (u : TimeUnit) (name : String) : nanoseconds ⟨n, u, name⟩ = n * u.length := rfl

/-- The nanoseconds of several counts. -/
def total : List Count → Nat
  | [] => 0
  | x :: xs => x.nanoseconds + total xs

/-- The unit is called by one of its names. -/
def IsNamed (x : Count) : Prop := x.unit.IsCalled x.name

/-- Counts of units below the second come to less than a second. -/
def IsSmall (x : Count) : Prop := x.unit.grain = 1 → x.nanoseconds < 1000000000

end Count

/-! ## Reading spans -/

section

variable {x : Count} {cs rest : List Char} {done : List Span}

theorem isDigit_of_mem {n : Nat} {c : Char} (hc : c ∈ Nat.toDigits 10 n) : c.isDigit = true :=
  Nat.isDigit_of_mem_toDigits (by decide) (by decide) hc

/-- No letter of a unit is a digit or a blank. -/
theorem isUnitLetter_excludes {c : Char} (h : isUnitLetter c = true) : c.isDigit = false ∧ Text.isBlank c = false := by
  have hall : ∀ n < 0xB6, isUnitLetter (Char.ofNat n) = true →
      (Char.ofNat n).isDigit = false ∧ Text.isBlank (Char.ofNat n) = false := by decide +kernel
  have hlt : c.toNat < 0xB6 := by
    simp only [isUnitLetter, Bool.or_eq_true, Bool.and_eq_true, decide_eq_true_eq, Char.le_def, UInt32.le_iff_toNat_le] at h
    rcases h with (⟨-, h⟩ | ⟨-, h⟩) | rfl
    · exact Nat.lt_of_le_of_lt h (by decide)
    · exact Nat.lt_of_le_of_lt h (by decide)
    · decide
  have hc := hall c.toNat hlt
  rw [Char.ofNat_toNat] at hc
  exact hc h

theorem readSpan_digits (done : List Span) (read cs : List Char) (h : ∀ c ∈ cs, c.isDigit = true) :
    cs.foldlM readSpan (done, .whole read) = some (done, .whole (read ++ cs)) := by
  induction cs generalizing read with
  | nil => rw [List.foldlM_nil, List.append_nil]; rfl
  | cons c cs ih =>
    obtain ⟨hc, hcs⟩ := List.forall_mem_cons.1 h
    have hstep : readSpan (done, .whole read) c = some (done, .whole (read ++ [c])) := by simp [readSpan, hc]
    rw [List.foldlM_cons, hstep, Option.bind_eq_bind, Option.bind_some, ih _ hcs, List.append_assoc, List.singleton_append]

theorem readSpan_letters (done : List Span) (s : Span) (cs : List Char) (h : ∀ c ∈ cs, isUnitLetter c = true) :
    cs.foldlM readSpan (done, .unit s) = some (done, .unit { s with unit := s.unit ++ cs }) := by
  induction cs generalizing s with
  | nil => rw [List.foldlM_nil, List.append_nil]; rfl
  | cons c cs ih =>
    obtain ⟨hc, hcs⟩ := List.forall_mem_cons.1 h
    obtain ⟨hdigit, hblank⟩ := isUnitLetter_excludes hc
    have hstep : readSpan (done, .unit s) c = some (done, .unit { s with unit := s.unit ++ [c] }) := by
      simp [readSpan, hc, hdigit, hblank]
    rw [List.foldlM_cons, hstep, Option.bind_eq_bind, Option.bind_some, ih _ hcs, List.append_assoc, List.singleton_append]

/-- A count is read as its span. -/
theorem readSpan_written (hx : x.IsNamed) (done : List Span) :
    x.written.foldlM readSpan (done, .between) = some (done, .unit x.span) := by
  have hdigits : ∀ c ∈ Nat.toDigits 10 x.amount, c.isDigit = true := fun c hc => isDigit_of_mem hc
  obtain ⟨first, digits, hd⟩ := List.exists_cons_of_ne_nil (Nat.toDigits_ne_nil (n := x.amount) (b := 10))
  obtain ⟨letter, letters, hl⟩ := List.exists_cons_of_ne_nil hx.2.2
  have hall : ∀ c ∈ x.name.toList, isUnitLetter c = true := List.all_eq_true.1 hx.2.1
  rw [hl] at hall
  obtain ⟨hletter, hletters⟩ := List.forall_mem_cons.1 hall
  obtain ⟨hnodigit, hnoblank⟩ := isUnitLetter_excludes hletter
  rw [hd] at hdigits
  obtain ⟨hfirst, hdigits⟩ := List.forall_mem_cons.1 hdigits
  have hbegin : readSpan (done, .between) first = some (done, .whole [first]) := by simp [readSpan, hfirst]
  have hturn : readSpan (done, .whole (first :: digits)) letter = some (done, .unit ⟨first :: digits, none, [letter]⟩) := by
    simp [readSpan, hletter, hnodigit, hnoblank]
  rw [Count.written, Count.span, hd, hl, List.foldlM_append, List.foldlM_cons, hbegin, Option.bind_eq_bind, Option.bind_some,
    readSpan_digits _ _ _ hdigits, List.singleton_append, Option.bind_some, List.foldlM_cons, hturn, Option.bind_eq_bind,
    Option.bind_some, readSpan_letters _ _ _ hletters]
  rfl

/-- Counts with blanks between them are read as their spans. -/
theorem foldlM_written (x : Count) (xs : List Count) (hall : ∀ y ∈ x :: xs, y.IsNamed) (done : List Span) :
    ∃ done' s, ([' '].intercalate ((x :: xs).map Count.written)).foldlM readSpan (done, .between) = some (done', .unit s) ∧
      (s :: done').reverse = done.reverse ++ (x :: xs).map Count.span := by
  induction xs generalizing x done with
  | nil =>
    refine ⟨done, x.span, ?_, by simp⟩
    rw [List.map_singleton, List.intercalate_singleton, readSpan_written (hall x List.mem_cons_self)]
  | cons y ys ih =>
    obtain ⟨hx, hrest⟩ := List.forall_mem_cons.1 hall
    obtain ⟨done', s, hread, hspans⟩ := ih y hrest (x.span :: done)
    have hblank : readSpan (done, .unit x.span) ' ' = some (x.span :: done, .between) := rfl
    refine ⟨done', s, ?_, by rw [hspans]; simp⟩
    rw [List.map_cons, List.map_cons, List.intercalate_cons_cons, List.foldlM_append, List.foldlM_append, readSpan_written hx,
      Option.bind_eq_bind, Option.bind_some, List.foldlM_cons, hblank, Option.bind_eq_bind, Option.bind_some]
    exact hread

theorem spans?_written {xs : List Count} (hne : xs ≠ []) (hall : ∀ y ∈ xs, y.IsNamed) :
    spans? ([' '].intercalate (xs.map Count.written)) = some (xs.map Count.span) := by
  obtain ⟨x, xs, rfl⟩ := List.exists_cons_of_ne_nil hne
  obtain ⟨done, s, hread, hspans⟩ := foldlM_written x xs hall []
  rw [spans?, hread]
  exact congrArg some hspans

end

/-! ## Adding up -/

section

variable {d : Duration} {x : Count}

/-- A unit is a whole number of grains. -/
theorem grain_cases (u : TimeUnit) : u.length / u.grain * u.grain = u.length ∧ 0 < u.length / u.grain ∧
    (u.grain = 1 ∨ u.grain = 1000000000) := by
  cases u <;> decide

/-- A count is counted in grains without a remainder. -/
theorem counted?_count (x : Count) (hb : x.amount * (x.unit.length / x.unit.grain) < 0x10000000000000000) :
    counted? x.amount x.unit.length x.unit.grain 1 = some x.nanoseconds := by
  obtain ⟨hgrain, -, -⟩ := grain_cases x.unit
  have hword : word? (x.amount * (x.unit.length / x.unit.grain)) = some (x.amount * (x.unit.length / x.unit.grain)) := if_pos hb
  rw [counted?, hword, Option.bind_eq_bind, Option.bind_some, exactQuotient?, if_pos (Nat.mod_one _), Nat.div_one]
  refine congrArg some ?_
  rw [Nat.mul_assoc, hgrain]
  rfl

/-- A count in grains fits a word, and so does the sum of what is below the second. -/
theorem count_fits (hsmall : x.IsSmall) (hb : d.nanoseconds + x.nanoseconds < 0x10000000000000000 * 1000000000) :
    x.amount * (x.unit.length / x.unit.grain) < 0x10000000000000000 ∧ x.amount < 0x10000000000000000 ∧
      ¬(x.unit.grain = 1 ∧ 0x10000000000000000 ≤ d.nanoseconds % 1000000000 + x.nanoseconds) := by
  obtain ⟨hgrain, hpos, hcases⟩ := grain_cases x.unit
  have hparts : x.amount * (x.unit.length / x.unit.grain) * x.unit.grain = x.nanoseconds := by
    rw [Nat.mul_assoc, hgrain]
    rfl
  have hle : x.amount ≤ x.amount * (x.unit.length / x.unit.grain) := Nat.le_mul_of_pos_right _ hpos
  have hbelow : x.unit.grain = 1 → x.nanoseconds < 1000000000 := hsmall
  generalize x.amount * (x.unit.length / x.unit.grain) = parts at hparts hle ⊢
  rcases hcases with hg | hg <;> rw [hg] at hparts hbelow ⊢ <;> omega

theorem addSpan?_span (hx : x.IsNamed) (hsmall : x.IsSmall)
    (hb : d.nanoseconds + x.nanoseconds < 0x10000000000000000 * 1000000000) :
    addSpan? d x.span = some ⟨d.nanoseconds + x.nanoseconds, hb⟩ := by
  have hname : TimeUnit.ofName? (String.ofList x.span.unit) = some x.unit := by
    rw [Count.span, String.ofList_toList, hx.1]
  have hread : Decimal.natural? 10 x.span.whole = some x.amount := Decimal.natural?_toDigits (by decide) (by decide) x.amount
  have hword : ∀ n, n < 0x10000000000000000 → word? n = some n := fun n hn => if_pos hn
  obtain ⟨hparts, hamount, hsum⟩ := count_fits hsmall hb
  have hadd : d.add? x.nanoseconds x.unit.grain = some ⟨d.nanoseconds + x.nanoseconds, hb⟩ := by
    rw [add?, if_neg hsum, ofNanoseconds?, dif_pos hb]
  rw [addSpan?, hname, hread]
  simp only [Option.bind_eq_bind, Option.bind_some, hword _ hamount, counted?_count x hparts, hadd]
  rfl

theorem foldlM_addSpan? {xs : List Count} (hall : ∀ y ∈ xs, y.IsNamed ∧ y.IsSmall) (d : Duration)
    (hb : d.nanoseconds + Count.total xs < 0x10000000000000000 * 1000000000) :
    (xs.map Count.span).foldlM addSpan? d = some ⟨d.nanoseconds + Count.total xs, hb⟩ := by
  induction xs generalizing d with
  | nil => rfl
  | cons x xs ih =>
    obtain ⟨⟨hnamed, hsmall⟩, hrest⟩ := List.forall_mem_cons.1 hall
    rw [Count.total] at hb
    have hfirst : d.nanoseconds + x.nanoseconds < 0x10000000000000000 * 1000000000 := by omega
    rw [List.map_cons, List.foldlM_cons, addSpan?_span hnamed hsmall hfirst, Option.bind_eq_bind, Option.bind_some,
      ih hrest _ (by dsimp only; omega)]
    simp only [Count.total, Nat.add_assoc]

end

/-! ## The text of a duration -/

/-- A name of a unit in the plural where there are several. -/
def plural (n : Nat) (name : String) : String := name ++ (if 1 < n then "s" else "")

/-- The counts of all units in a duration. -/
def counts (d : Duration) : List Count :=
  let s := d.seconds
  let ns := d.nanoseconds % 1000000000
  let inYear := s % 31557600
  let inMonth := inYear % 2630016
  let inDay := inMonth % 86400
  [⟨s / 31557600, .year, plural (s / 31557600) "year"⟩, ⟨inYear / 2630016, .month, plural (inYear / 2630016) "month"⟩,
    ⟨inMonth / 86400, .day, plural (inMonth / 86400) "day"⟩, ⟨inDay / 3600, .hour, "h"⟩, ⟨inDay % 3600 / 60, .minute, "m"⟩,
    ⟨inDay % 60, .second, "s"⟩, ⟨ns / 1000000, .millisecond, "ms"⟩, ⟨ns / 1000 % 1000, .microsecond, "us"⟩,
    ⟨ns % 1000, .nanosecond, "ns"⟩]

/-- The counts that are written. -/
def shown (d : Duration) : List Count := d.counts.filter fun x => decide (x.amount ≠ 0)

/-- A count as an item of the text, if there is anything to count. -/
def item (x : Count) : Option String := if x.amount = 0 then none else some (String.ofList x.written)

theorem namedItem_eq (n : Nat) (u : TimeUnit) (name : String) : namedItem n name = item ⟨n, u, plural n name⟩ := by
  rw [namedItem, item, Count.written, plural, String.ofList_append, String.ofList_toList, ← Nat.toString_eq_ofList_toDigits,
    String.append_assoc]

theorem plainItem_eq (n : Nat) (u : TimeUnit) (name : String) : plainItem n name = item ⟨n, u, name⟩ := by
  rw [plainItem, item, Count.written, String.ofList_append, String.ofList_toList, ← Nat.toString_eq_ofList_toDigits]

theorem filterMap_item (xs : List Count) : xs.filterMap item =
    (xs.filter fun x => decide (x.amount ≠ 0)).map fun x => String.ofList x.written := by
  induction xs with
  | nil => rfl
  | cons x xs ih =>
    by_cases hx : x.amount = 0
    · have hitem : item x = none := if_pos hx
      rw [List.filterMap_cons_none hitem, List.filter_cons_of_neg (by simp [hx]), ih]
    · have hitem : item x = some (String.ofList x.written) := if_neg hx
      rw [List.filterMap_cons_some hitem, List.filter_cons_of_pos (by simp [hx]), ih, List.map_cons]

/-- The text of a duration is what is shown of it, and no time at all is zero seconds. -/
theorem text_eq (d : Duration) :
    d.text = if d.shown = [] then "0s" else String.ofList ([' '].intercalate (d.shown.map Count.written)) := by
  have hjoined : ∀ xs : List Count, String.intercalate " " (xs.map fun x => String.ofList x.written) =
      String.ofList ([' '].intercalate (xs.map Count.written)) := by
    intro xs
    rw [← String.toList_inj, String.toList_intercalate, String.toList_ofList, List.map_map]
    simp [Function.comp_def]
  unfold text
  dsimp only
  rw [namedItem_eq _ .year "year", namedItem_eq _ .month "month", namedItem_eq _ .day "day", plainItem_eq _ .hour "h",
    plainItem_eq _ .minute "m", plainItem_eq _ .second "s", plainItem_eq _ .millisecond "ms", plainItem_eq _ .microsecond "us",
    plainItem_eq _ .nanosecond "ns"]
  show (if (d.counts.map item).filterMap id = [] then "0s" else String.intercalate " " ((d.counts.map item).filterMap id)) = _
  have hitems : (d.counts.map item).filterMap id = d.shown.map fun x => String.ofList x.written := by
    rw [List.filterMap_map, Function.id_comp, filterMap_item]
    rfl
  rw [hitems, hjoined]
  simp only [List.map_eq_nil_iff]

theorem isCalled_plural (n : Nat) {u : TimeUnit} {name : String} (h : u.IsCalled name ∧ u.IsCalled (name ++ "s")) :
    u.IsCalled (plural n name) := by
  unfold plural
  split
  · exact h.2
  · rw [String.append_empty]
    exact h.1

/-- A count of a unit of a second or more. -/
theorem isNamed_long (n : Nat) {u : TimeUnit} {name : String} (hu : u.grain ≠ 1) (h : u.IsCalled name) :
    (⟨n, u, name⟩ : Count).IsNamed ∧ (⟨n, u, name⟩ : Count).IsSmall := ⟨h, fun he => absurd he hu⟩

/-- A count of a smaller unit. -/
theorem isNamed_short (n : Nat) {u : TimeUnit} {name : String} (hn : n * u.length < 1000000000) (h : u.IsCalled name) :
    (⟨n, u, name⟩ : Count).IsNamed ∧ (⟨n, u, name⟩ : Count).IsSmall := ⟨h, fun _ => hn⟩

/-- Units are called by their names, and the counts below the second come to less than one. -/
theorem isNamed_counts (d : Duration) : ∀ x ∈ d.counts, x.IsNamed ∧ x.IsSmall := by
  have hyear : TimeUnit.IsCalled .year "year" ∧ TimeUnit.IsCalled .year ("year" ++ "s") := by decide
  have hmonth : TimeUnit.IsCalled .month "month" ∧ TimeUnit.IsCalled .month ("month" ++ "s") := by decide
  have hday : TimeUnit.IsCalled .day "day" ∧ TimeUnit.IsCalled .day ("day" ++ "s") := by decide
  have hmilli : TimeUnit.length .millisecond = 1000000 := rfl
  have hmicro : TimeUnit.length .microsecond = 1000 := rfl
  have hnano : TimeUnit.length .nanosecond = 1 := rfl
  simp only [counts, List.forall_mem_cons]
  refine ⟨isNamed_long _ (by decide) (isCalled_plural _ hyear), isNamed_long _ (by decide) (isCalled_plural _ hmonth),
    isNamed_long _ (by decide) (isCalled_plural _ hday), isNamed_long _ (by decide) (by decide), isNamed_long _ (by decide) (by decide),
    isNamed_long _ (by decide) (by decide), isNamed_short _ (by rw [hmilli]; omega) (by decide),
    isNamed_short _ (by rw [hmicro]; omega) (by decide), isNamed_short _ (by rw [hnano]; omega) (by decide),
    fun _ h => absurd h List.not_mem_nil⟩

/-- A number of seconds is the sum of its parts. -/
theorem seconds_eq (s : Nat) :
    let inYear := s % 31557600
    let inMonth := inYear % 2630016
    let inDay := inMonth % 86400
    s / 31557600 * 31557600 + (inYear / 2630016 * 2630016 + (inMonth / 86400 * 86400 +
      (inDay / 3600 * 3600 + (inDay % 3600 / 60 * 60 + inDay % 60)))) = s := by
  intro inYear inMonth inDay
  have hminute : inDay % 3600 / 60 * 60 + inDay % 60 = inDay % 3600 := by
    rw [← Nat.mod_mod_of_dvd inDay (by decide : 60 ∣ 3600), Nat.div_add_mod']
  rw [hminute, Nat.div_add_mod', Nat.div_add_mod', Nat.div_add_mod', Nat.div_add_mod']

/-- The nanoseconds of a second are the sum of their parts. -/
theorem subseconds_eq (ns : Nat) : ns / 1000000 * 1000000 + (ns / 1000 % 1000 * 1000 + ns % 1000 * 1) = ns := by omega

/-- Units that are multiples of one unit are counted in it. -/
theorem weigh_parts (y mo da h mi s ns ly lmo lda lh lmi ls : Nat) :
    y * (ly * ls) + (mo * (lmo * ls) + (da * (lda * ls) + (h * (lh * ls) + (mi * (lmi * ls) + (s * ls + ns))))) =
      (y * ly + (mo * lmo + (da * lda + (h * lh + (mi * lmi + s))))) * ls + ns := by
  simp only [Nat.add_mul, Nat.mul_assoc, Nat.add_assoc]

/-- What is not shown counts for nothing. -/
theorem total_shown (d : Duration) : Count.total d.shown = d.nanoseconds := by
  have hshown : ∀ xs : List Count, Count.total (xs.filter fun x => decide (x.amount ≠ 0)) = Count.total xs := by
    intro xs
    induction xs with
    | nil => rfl
    | cons x xs ih =>
      by_cases hx : x.amount = 0
      · rw [List.filter_cons_of_neg (by simp [hx]), ih, Count.total, Count.nanoseconds, hx, Nat.zero_mul, Nat.zero_add]
      · rw [List.filter_cons_of_pos (by simp [hx]), Count.total, Count.total, ih]
  rw [shown, hshown]
  have hseconds := seconds_eq d.seconds
  have hsub := subseconds_eq (d.nanoseconds % 1000000000)
  have hwhole : d.seconds * 1000000000 + d.nanoseconds % 1000000000 = d.nanoseconds := by
    rw [seconds, Nat.div_add_mod']
  have hlengths : TimeUnit.length .year = 31557600 * 1000000000 ∧ TimeUnit.length .month = 2630016 * 1000000000 ∧
      TimeUnit.length .day = 86400 * 1000000000 ∧ TimeUnit.length .hour = 3600 * 1000000000 ∧
      TimeUnit.length .minute = 60 * 1000000000 ∧ TimeUnit.length .second = 1000000000 ∧
      TimeUnit.length .millisecond = 1000000 ∧ TimeUnit.length .microsecond = 1000 ∧ TimeUnit.length .nanosecond = 1 := by decide
  obtain ⟨hy, hmo, hd, hh, hmi, hs, hms, hus, hns⟩ := hlengths
  rw [counts]
  repeat rw [Count.total, Count.nanoseconds_mk]
  rw [Count.total, hy, hmo, hd, hh, hmi, hs, hms, hus, hns, Nat.add_zero, weigh_parts, hseconds, hsub, hwhole]

/-- The text of a duration is read back as the duration. -/
theorem ofText?_text (d : Duration) : ofText? d.text = some d := by
  have hsum := d.total_shown
  have hbounded := d.bounded
  have hall : ∀ x ∈ d.shown, x.IsNamed ∧ x.IsSmall := fun x hx => d.isNamed_counts x (List.mem_filter.1 hx).1
  rw [text_eq]
  by_cases hshown : d.shown = []
  · rw [if_pos hshown]
    rw [hshown] at hsum
    have hzero : d = zero := by
      cases d
      simp only [zero, mk.injEq]
      exact hsum.symm
    rw [hzero]
    decide
  · have hspans := spans?_written hshown fun x hx => (hall x hx).1
    have hadded := foldlM_addSpan? hall zero (by rw [hsum]; simpa [zero] using hbounded)
    have hd : (⟨zero.nanoseconds + Count.total d.shown, by rw [hsum]; simpa [zero] using hbounded⟩ : Duration) = d := by
      cases d
      simp only [mk.injEq]
      rw [hsum, zero, Nat.zero_add]
    -- A zero alone has no unit, so it is not what is written.
    have hne : String.ofList ([' '].intercalate (d.shown.map Count.written)) ≠ "0" := by
      intro he
      have hread := congrArg (fun t => spans? t.toList) he
      rw [String.toList_ofList, hspans] at hread
      cases hread
    rw [if_neg hshown, ofText?, if_neg hne, String.toList_ofList, hspans, Option.bind_some, hadded, hd]

end Duration
end CoEdit
