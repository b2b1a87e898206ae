import CoEdit.Address
import CoEdit.Proofs.Number.Digits

/-!
# Texts of addresses

The text of an address is read back as the address (`IpAddress.ofText?_text`), for all addresses of both families. A number is read up to
the first character that is no digit of its base. A text without a point is not read as an address of the fourth version anywhere, so
groups are read one by one, up to the double colon that stands for the longest run of zeros.
-/

namespace CoEdit
namespace IpAddress

variable {base digits bound n : Nat} {cs rest : List Char}

/-! ## Numbers -/

/-- The text does not go on with a digit of the base. -/
def Stops (base : Nat) (rest : List Char) : Prop := ∀ c, rest.head? = some c → Decimal.digitValue? base c = none

theorem stops_nil (base : Nat) : Stops base [] := fun _ h => nomatch h

theorem stops_cons {c : Char} (h : Decimal.digitValue? base c = none) (rest : List Char) : Stops base (c :: rest) := by
  rintro _ ⟨⟩
  exact h

/-- Where the text does not go on with a digit, none is taken. -/
theorem takeWhile_of_stops (hrest : Stops base rest) : rest.takeWhile (fun c => (Decimal.digitValue? base c).isSome) = [] ∧
    rest.dropWhile (fun c => (Decimal.digitValue? base c).isSome) = rest := by
  cases rest with
  | nil => exact ⟨rfl, rfl⟩
  | cons c rest =>
    have hc : ¬(Decimal.digitValue? base c).isSome = true := by rw [hrest c rfl]; exact Bool.false_ne_true
    exact ⟨List.takeWhile_cons_of_neg hc, List.dropWhile_cons_of_neg hc⟩

/-- A number is read up to where its digits end. -/
theorem readNumber_toDigits (leadingZeros : Bool) (h1 : 1 < base) (hb : base ≤ 16) (hn : n < bound)
    (hlength : (Nat.toDigits base n).length ≤ digits) (hrest : Stops base rest) :
    readNumber base digits bound leadingZeros (Nat.toDigits base n ++ rest) = some (n, rest) := by
  obtain ⟨htake, hdrop⟩ := takeWhile_of_stops hrest
  have hdigits : ∀ c ∈ Nat.toDigits base n, (Decimal.digitValue? base c).isSome = true := Decimal.isSome_digitValue? h1 hb
  have hzeros : (Nat.toDigits base n).length ≤ 1 ∨ (Nat.toDigits base n).head? ≠ some '0' := by
    by_cases hzero : n = 0
    · rw [hzero, Nat.toDigits_of_lt_base (by omega)]
      exact .inl (Nat.le_refl 1)
    · exact .inr (Decimal.head?_toDigits h1 hzero)
  unfold readNumber
  dsimp only
  rw [List.takeWhile_append_of_pos hdigits, List.dropWhile_append_of_pos hdigits, htake, hdrop, List.append_nil,
    if_pos ⟨hlength, .inr hzeros⟩, Decimal.natural?_toDigits h1 hb, Option.filter_some, if_pos (decide_eq_true hn), Option.map_some]

/-- Where there is no digit, no number is read. -/
theorem readNumber_of_stops (leadingZeros : Bool) (hcs : Stops base cs) : readNumber base digits bound leadingZeros cs = none := by
  unfold readNumber
  dsimp only
  rw [(takeWhile_of_stops hcs).1, Decimal.natural?, Option.filter_none, Option.map_none, ite_self]

/-- What a number leaves of a text is the end of the text. -/
theorem suffix_of_readNumber {leadingZeros : Bool} (h : readNumber base digits bound leadingZeros cs = some (n, rest)) :
    rest <:+ cs := by
  unfold readNumber at h
  dsimp only at h
  split at h
  · obtain ⟨_, -, he⟩ := Option.map_eq_some_iff.1 h
    cases he
    exact List.dropWhile_suffix _
  · cases h

/-! ## Addresses of the fourth version -/

/-- An octet has at most three digits. -/
theorem readNumber_octet (hn : n < 256) (hrest : Stops 10 rest) :
    readNumber 10 3 256 false (Nat.toDigits 10 n ++ rest) = some (n, rest) :=
  readNumber_toDigits false (by decide) (by decide) hn
    ((Nat.length_toDigits_le_iff (by decide) (by decide)).2 (Nat.lt_trans hn (by decide))) hrest

theorem readAfter_true {α : Type} (c : Char) (r : AddressReader α) (cs : List Char) : readAfter c true r cs = r cs := rfl

theorem readAfter_separator {α : Type} (c : Char) (r : AddressReader α) (cs : List Char) : readAfter c false r (c :: cs) = r cs := by
  simp [readAfter, readChar]

/-- Without the separator nothing is read after it. -/
theorem readAfter_of_ne {α : Type} {c : Char} (r : AddressReader α) (hcs : cs.head? ≠ some c) : readAfter c false r cs = none := by
  cases cs with
  | nil => rfl
  | cons x cs =>
    have hx : x ≠ c := fun he => hcs (congrArg some he)
    simp [readAfter, readChar, hx]

/-- The four numbers of an address are read from their text. -/
theorem readV4_dotted (n : Nat) : readV4 (dotted n).toList =
    some ((n / 0x1000000 % 256, n / 65536 % 256, n / 256 % 256, n % 256), []) := by
  have hbound (m : Nat) : m % 256 < 256 := Nat.mod_lt _ (by decide)
  have hpoint (rest : List Char) : Stops 10 ('.' :: rest) := stops_cons (by decide) rest
  have hlast : readNumber 10 3 256 false (Nat.toDigits 10 (n % 256)) = some (n % 256, []) := by
    have h := readNumber_octet (hbound n) (stops_nil 10)
    rwa [List.append_nil] at h
  have htext : (dotted n).toList = Nat.toDigits 10 (n / 0x1000000 % 256) ++ '.' :: (Nat.toDigits 10 (n / 65536 % 256) ++
      '.' :: (Nat.toDigits 10 (n / 256 % 256) ++ '.' :: Nat.toDigits 10 (n % 256))) := by
    unfold dotted
    simp only [String.toList_intercalate, List.map_cons, List.map_nil, Nat.toString_eq_ofList_toDigits, String.toList_ofList,
      List.intercalate_cons_cons, List.intercalate_singleton]
    simp
  rw [htext, readV4]
  simp only [readNumber_octet (hbound _) (hpoint _), readAfter_separator, hlast, Option.bind_eq_bind, Option.bind_some, Option.pure_def]

theorem readV4_of_stops (hcs : Stops 10 cs) : readV4 cs = none := by
  rw [readV4, readNumber_of_stops false hcs]
  rfl

/-- Without a point no address of the fourth version is read. -/
theorem readV4_of_no_point (hcs : '.' ∉ cs) : readV4 cs = none := by
  unfold readV4
  dsimp only
  cases h : readNumber 10 3 256 false cs with
  | none => rfl
  | some found =>
    obtain ⟨n, rest⟩ := found
    have hrest : '.' ∉ rest := fun hmem => hcs ((suffix_of_readNumber h).subset hmem)
    have hnone : readAfter '.' false (readNumber 10 3 256 false) rest = none :=
      readAfter_of_ne _ fun hhead => hrest (List.mem_of_head? hhead)
    rw [Option.bind_eq_bind, Option.bind_some]
    dsimp only
    rw [hnone]
    rfl

theorem readAfter_of_no_point (first : Bool) (hcs : '.' ∉ cs) : readAfter ':' first readV4 cs = none := by
  cases first with
  | true => exact readV4_of_no_point hcs
  | false =>
    cases cs with
    | nil => rfl
    | cons c cs =>
      by_cases hc : c = ':'
      · rw [hc, readAfter_separator, readV4_of_no_point fun h => hcs (List.mem_cons_of_mem _ h)]
      · exact readAfter_of_ne _ fun he => hc (Option.some.inj he)

theorem readV4Address_of_no_point (hcs : '.' ∉ cs) : readV4Address cs = none := by
  rw [readV4Address, readV4_of_no_point hcs]
  rfl

/-! ## Groups -/

/-- Groups as they are read: each after a colon, but the first of a text has none before it. -/
def writtenGroups : (first : Bool) → List Nat → List Char
  | _, [] => []
  | first, g :: gs => (if first then [] else [':']) ++ (Nat.toDigits 16 g ++ writtenGroups false gs)

theorem toList_colonated (gs : List Nat) : (colonated gs).toList = writtenGroups true gs := by
  have hcons : ∀ (g : Nat) (gs : List Nat),
      [':'].intercalate ((g :: gs).map (Nat.toDigits 16)) = Nat.toDigits 16 g ++ writtenGroups false gs := by
    intro g gs
    induction gs generalizing g with
    | nil => rw [List.map_singleton, List.intercalate_singleton, writtenGroups, List.append_nil]
    | cons g' gs ih =>
      rw [List.map_cons, List.map_cons, List.intercalate_cons_cons, ← List.map_cons, ih, writtenGroups, if_neg Bool.false_ne_true,
        List.append_assoc]
  have htexts : (gs.map fun g => String.ofList (Nat.toDigits 16 g)).map String.toList = gs.map (Nat.toDigits 16) := by
    rw [List.map_map]
    exact List.map_congr_left fun g _ => String.toList_ofList
  unfold colonated
  rw [String.toList_intercalate, htexts]
  cases gs with
  | nil => rfl
  | cons g gs => exact hcons g gs

/-- Where groups end: at the end of the text or at a double colon. -/
inductive EndsGroups : List Char → Prop
  | done : EndsGroups []
  | gap (more : List Char) : EndsGroups (':' :: ':' :: more)

theorem stops_writtenGroups (gs : List Nat) (hrest : EndsGroups rest) : Stops 16 (writtenGroups false gs ++ rest) := by
  cases gs with
  | nil =>
    cases hrest with
    | done => exact stops_nil 16
    | gap more => exact stops_cons (by decide) _
  | cons g gs => exact stops_cons (by decide) _

theorem no_point_writtenGroups (first : Bool) (gs : List Nat) : '.' ∉ writtenGroups first gs := by
  have hdigits : ∀ g, '.' ∉ Nat.toDigits 16 g := by
    intro g hmem
    have hsome : (Decimal.digitValue? 16 '.').isSome = true := Decimal.isSome_digitValue? (by decide) (by decide) '.' hmem
    revert hsome
    decide
  have hcolon : '.' ∉ [':'] := by decide
  induction gs generalizing first with
  | nil => exact List.not_mem_nil
  | cons g gs ih =>
    rw [writtenGroups, List.mem_append, List.mem_append]
    rintro (h | h | h)
    · split at h
      · exact List.not_mem_nil h
      · exact hcolon h
    · exact hdigits g h
    · exact ih false h

/-- A group is at most four digits. -/
theorem readNumber_group {g : Nat} (hg : g < 65536) (hrest : Stops 16 rest) :
    readNumber 16 4 65536 true (Nat.toDigits 16 g ++ rest) = some (g, rest) :=
  readNumber_toDigits true (by decide) (by decide) hg ((Nat.length_toDigits_le_iff (by decide) (by decide)).2 hg) hrest

/-- Groups are read to their end, if none of them could be the beginning of an address of the fourth version. -/
theorem readGroups_writtenGroups {gs : List Nat} (hgs : ∀ g ∈ gs, g < 65536) (room : Nat) (first : Bool)
    (hroom : gs.length ≤ room) (hrest : EndsGroups rest) (hpoint : '.' ∉ rest) :
    readGroups room first (writtenGroups first gs ++ rest) = (gs, false, rest) := by
  have hnoplain : ∀ (first : Bool) (gs : List Nat), '.' ∉ writtenGroups first gs ++ rest := fun first gs h =>
    (List.mem_append.1 h).elim (no_point_writtenGroups first gs) hpoint
  induction gs generalizing room first with
  | nil =>
    cases room with
    | zero => rfl
    | succ room =>
      have hnone : readAfter ':' first (readNumber 16 4 65536 true) rest = none := by
        cases first <;> cases hrest
        · rfl
        · rw [readAfter_separator, readNumber_of_stops true (stops_cons (by decide) _)]
        · rfl
        · rw [readAfter_true, readNumber_of_stops true (stops_cons (by decide) _)]
      rw [writtenGroups, List.nil_append, readGroups, readAfter_of_no_point first hpoint, ite_self, hnone]
  | cons g gs ih =>
    obtain ⟨hg, hgs⟩ := List.forall_mem_cons.1 hgs
    obtain ⟨room, rfl⟩ : ∃ m, room = m + 1 := ⟨room - 1, by rw [List.length_cons] at hroom; omega⟩
    have hgroup : readAfter ':' first (readNumber 16 4 65536 true) (writtenGroups first (g :: gs) ++ rest) =
        some (g, writtenGroups false gs ++ rest) := by
      rw [writtenGroups]
      cases first with
      | true => rw [if_pos rfl, List.nil_append, List.append_assoc, readAfter_true, readNumber_group hg (stops_writtenGroups gs hrest)]
      | false =>
        rw [if_neg Bool.false_ne_true, List.append_assoc, List.singleton_append, readAfter_separator, List.append_assoc,
          readNumber_group hg (stops_writtenGroups gs hrest)]
    rw [readGroups, readAfter_of_no_point first (hnoplain first _), ite_self, hgroup]
    dsimp only
    rw [ih hgs room false (Nat.le_of_succ_le_succ hroom)]

/-! ## Numbers of addresses -/

/-- An address of the fourth version is its four numbers. -/
theorem bits_of_octets (bits : UInt32) : UInt32.ofNat (((bits.toNat / 0x1000000 % 256 * 256 + bits.toNat / 65536 % 256) * 256 +
    bits.toNat / 256 % 256) * 256 + bits.toNat % 256) = bits := by
  have hlt := bits.toNat_lt
  have hsum : ((bits.toNat / 0x1000000 % 256 * 256 + bits.toNat / 65536 % 256) * 256 + bits.toNat / 256 % 256) * 256 +
      bits.toNat % 256 = bits.toNat := by omega
  rw [hsum, UInt32.ofNat_toNat]

/-- Half of an address of the sixth version is its four groups. -/
theorem half_of_groups (half : UInt64) : UInt64.ofNat ([half.toNat / 0x1000000000000 % 65536, half.toNat / 0x100000000 % 65536,
    half.toNat / 65536 % 65536, half.toNat % 65536].foldl (fun n g => n * 65536 + g) 0) = half := by
  have hlt := half.toNat_lt
  have hsum : [half.toNat / 0x1000000000000 % 65536, half.toNat / 0x100000000 % 65536, half.toNat / 65536 % 65536,
      half.toNat % 65536].foldl (fun n g => n * 65536 + g) 0 = half.toNat := by
    simp only [List.foldl_cons, List.foldl_nil]
    omega
  rw [hsum, UInt64.ofNat_toNat]

theorem ofGroups_groups (high low : UInt64) : ofGroups (groups high low) = .v6 high low := by
  unfold ofGroups groups
  exact congr (congrArg IpAddress.v6 (half_of_groups high)) (half_of_groups low)

theorem lt_of_mem_groups {high low : UInt64} : ∀ g ∈ groups high low, g < 65536 := by
  have hmod (n : Nat) : n % 65536 < 65536 := Nat.mod_lt _ (by decide)
  unfold groups
  simp [hmod]

/-- A run of zeros stands at its place in the list. -/
theorem longestRun_spec {gs : List Nat} {start place n : Nat} (h : longestRun start gs = (place, n)) (hn : 0 < n) :
    ∃ front back, gs = front ++ List.replicate n 0 ++ back ∧ place = start + front.length := by
  induction gs generalizing start with
  | nil =>
    cases h
    exact absurd hn (Nat.lt_irrefl 0)
  | cons g gs ih =>
    rw [longestRun] at h
    dsimp only at h
    split at h
    · cases h
      have hzeros : (g :: gs).takeWhile (· = 0) = List.replicate (zeroRun (g :: gs)) 0 :=
        List.eq_replicate_of_mem fun x hx => of_decide_eq_true (List.all_eq_true.1 List.all_takeWhile x hx)
      refine ⟨[], (g :: gs).dropWhile (· = 0), ?_, rfl⟩
      rw [List.nil_append, ← hzeros, List.takeWhile_append_dropWhile]
    · obtain ⟨front, back, rfl, hplace⟩ := ih h
      refine ⟨g :: front, back, rfl, ?_⟩
      rw [hplace, List.length_cons]
      omega

/-! ## Addresses of the sixth version -/

/-- Eight groups are read as an address. -/
theorem readV6_all {gs : List Nat} (hgs : ∀ g ∈ gs, g < 65536) (hlength : gs.length = 8) :
    readV6 (writtenGroups true gs) = some (ofGroups gs, []) := by
  have hread := readGroups_writtenGroups hgs 8 true (Nat.le_of_eq hlength) .done List.not_mem_nil
  rw [List.append_nil] at hread
  rw [readV6, hread]
  dsimp only
  rw [if_pos hlength]

/-- Groups on both sides of a double colon are read as an address with zeros in between. -/
theorem readV6_gap {front back : List Nat} {n : Nat} (hfront : ∀ g ∈ front, g < 65536) (hback : ∀ g ∈ back, g < 65536) (hn : 0 < n)
    (hlength : front.length + n + back.length = 8) :
    readV6 (writtenGroups true front ++ ':' :: ':' :: writtenGroups true back) =
      some (ofGroups (front ++ List.replicate n 0 ++ back), []) := by
  have hpoint : '.' ∉ ':' :: ':' :: writtenGroups true back := by
    simpa using no_point_writtenGroups true back
  have hreadFront := readGroups_writtenGroups hfront 8 true (by omega) (.gap _) hpoint
  have hreadBack := readGroups_writtenGroups hback (7 - front.length) true (by omega) .done List.not_mem_nil
  have hgap : 8 - front.length - back.length = n := by omega
  rw [List.append_nil] at hreadBack
  rw [readV6, hreadFront]
  dsimp only
  rw [if_neg (by omega), if_neg Bool.false_ne_true]
  simp only [readChar, if_true, Option.bind_eq_bind, Option.bind_some, hreadBack, hgap, Option.pure_def]

/-- An address that stands for one of the fourth version is read from the text of that one. -/
theorem readV6_mapped (n : Nat) : readV6 (':' :: ':' :: (Nat.toDigits 16 0xFFFF ++ ':' :: (dotted n).toList)) =
    some (ofGroups [0, 0, 0, 0, 0, 0xFFFF, n / 0x1000000 % 256 * 256 + n / 65536 % 256, n / 256 % 256 * 256 + n % 256], []) := by
  have hstart (rest : List Char) : readGroups 8 true (':' :: rest) = ([], false, ':' :: rest) := by
    rw [readGroups, readAfter_true, readAfter_true, readV4_of_stops (stops_cons (by decide) rest), ite_self,
      readNumber_of_stops true (stops_cons (by decide) rest)]
  have hgroup : readGroups 7 true (Nat.toDigits 16 0xFFFF ++ ':' :: (dotted n).toList) =
      ([0xFFFF, n / 0x1000000 % 256 * 256 + n / 65536 % 256, n / 256 % 256 * 256 + n % 256], true, []) := by
    have hplain : readV4 (Nat.toDigits 16 0xFFFF ++ ':' :: (dotted n).toList) = none := by
      have hdigits : Nat.toDigits 16 0xFFFF = ['f', 'f', 'f', 'f'] := by decide
      rw [hdigits]
      exact readV4_of_stops (stops_cons (by decide) _)
    rw [readGroups, readAfter_true, readAfter_true, hplain, ite_self, readNumber_group (by decide) (stops_cons (by decide) _)]
    dsimp only
    rw [readGroups, if_pos (by decide), readAfter_separator, readV4_dotted]
  rw [readV6, hstart]
  dsimp only
  rw [if_neg (by decide), if_neg Bool.false_ne_true]
  simp only [readChar, if_true, Option.bind_eq_bind, Option.bind_some, List.length_nil, Nat.sub_zero, hgroup, Option.pure_def]
  rfl

/-! ## All addresses -/

theorem ofText?_of_readV6 {text : String} {a : IpAddress} (hplain : readV4Address text.toList = none)
    (h : readV6 text.toList = some (a, [])) : ofText? text = some a := by
  rw [ofText?, whole?, hplain, Option.orElse_none, h]

theorem ofText?_v4 (bits : UInt32) : ofText? (text (.v4 bits)) = some (.v4 bits) := by
  rw [text, ofText?, whole?, readV4Address, readV4_dotted]
  simp only [Option.map_some, Option.orElse_some, bits_of_octets]

/-- The text of eight groups. -/
def shownGroups (gs : List Nat) : String :=
  let (place, n) := longestRun 0 gs
  if 1 < n then colonated (gs.take place) ++ "::" ++ colonated (gs.drop (place + n)) else colonated gs

theorem ofText?_shownGroups {gs : List Nat} (hgs : ∀ g ∈ gs, g < 65536) (hlength : gs.length = 8) :
    ofText? (shownGroups gs) = some (ofGroups gs) := by
  cases hrun : longestRun 0 gs with
  | mk place n =>
    by_cases hn : 1 < n
    · obtain ⟨front, back, hsplit, hplace⟩ := longestRun_spec hrun (Nat.zero_lt_of_lt hn)
      have hfront : gs.take place = front := by
        rw [hsplit, hplace, List.append_assoc, Nat.zero_add, List.take_left]
      have hback : gs.drop (place + n) = back := by
        rw [hsplit, List.drop_left' (by rw [List.length_append, List.length_replicate, hplace, Nat.zero_add])]
      have htext : (shownGroups gs).toList = writtenGroups true front ++ ':' :: ':' :: writtenGroups true back := by
        rw [shownGroups, hrun]
        dsimp only
        rw [if_pos hn, hfront, hback, String.toList_append, String.toList_append, toList_colonated, toList_colonated, List.append_assoc]
        rfl
      have hsum : front.length + n + back.length = 8 := by
        rw [← hlength, hsplit, List.length_append, List.length_append, List.length_replicate]
      have hread := readV6_gap (fun g hg => hgs g (by simp [hsplit, hg])) (fun g hg => hgs g (by simp [hsplit, hg]))
        (Nat.zero_lt_of_lt hn) hsum
      rw [← hsplit, ← htext] at hread
      refine ofText?_of_readV6 (readV4Address_of_no_point ?_) hread
      rw [htext]
      simp [no_point_writtenGroups]
    · have htext : (shownGroups gs).toList = writtenGroups true gs := by
        rw [shownGroups, hrun]
        dsimp only
        rw [if_neg hn, toList_colonated]
      refine ofText?_of_readV6 (readV4Address_of_no_point ?_) (htext ▸ readV6_all hgs hlength)
      rw [htext]
      exact no_point_writtenGroups true _

/-- The groups of an address that stands for one of the fourth version. -/
theorem groups_mapped (low : UInt64) (hlow : low.toNat / 0x100000000 = 0xFFFF) :
    let n := low.toNat % 0x100000000
    groups 0 low = [0, 0, 0, 0, 0, 0xFFFF, n / 0x1000000 % 256 * 256 + n / 65536 % 256, n / 256 % 256 * 256 + n % 256] := by
  intro n
  have hlow0 : low.toNat / 0x1000000000000 % 65536 = 0 := by omega
  have hlow1 : low.toNat / 0x100000000 % 65536 = 0xFFFF := by rw [hlow]
  have hlow2 : low.toNat / 65536 % 65536 = n / 0x1000000 % 256 * 256 + n / 65536 % 256 := by omega
  have hlow3 : low.toNat % 65536 = n / 256 % 256 * 256 + n % 256 := by omega
  unfold groups
  dsimp only
  rw [hlow0, hlow1, hlow2, hlow3]
  rfl

theorem ofText?_mapped (low : UInt64) (hlow : low.toNat / 0x100000000 = 0xFFFF) :
    ofText? ("::ffff:" ++ dotted (low.toNat % 0x100000000)) = some (.v6 0 low) := by
  have hprefix : "::ffff:".toList = ':' :: ':' :: (Nat.toDigits 16 0xFFFF ++ [':']) := by decide
  have htext : ("::ffff:" ++ dotted (low.toNat % 0x100000000)).toList =
      ':' :: ':' :: (Nat.toDigits 16 0xFFFF ++ ':' :: (dotted (low.toNat % 0x100000000)).toList) := by
    rw [String.toList_append, hprefix]
    simp
  have hread := readV6_mapped (low.toNat % 0x100000000)
  rw [← groups_mapped low hlow, ofGroups_groups, ← htext] at hread
  refine ofText?_of_readV6 ?_ hread
  rw [htext, readV4Address, readV4_of_stops (stops_cons (by decide) _)]
  rfl

theorem ofText?_v6 (high low : UInt64) : ofText? (text (.v6 high low)) = some (.v6 high low) := by
  have hlength : (groups high low).length = 8 := rfl
  have hshown := ofText?_shownGroups lt_of_mem_groups hlength
  rw [ofGroups_groups, shownGroups] at hshown
  rw [text]
  split
  · next hmapped =>
    rw [hmapped.1]
    exact ofText?_mapped low hmapped.2
  · exact hshown

/-- The text of an address is read back as the address. -/
theorem ofText?_text (a : IpAddress) : ofText? a.text = some a := by
  cases a with
  | v4 bits => exact ofText?_v4 bits
  | v6 high low => exact ofText?_v6 high low

end IpAddress
end CoEdit
