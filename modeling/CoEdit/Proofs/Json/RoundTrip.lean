import CoEdit.Json.Reader
import CoEdit.Json.Writer

/-!
# JSON documents that are written are read back

The scanner reads the tokens of a tree from its document (`Json.scans_spread`), and the reader puts any value together from its tokens
(`Json.reads_tokensOf`). So the value of a document that is written is the value of the tree (`Json.value?_toSpreadJson`), if its numbers
are read back, and it is the tree that is read back if its brackets are not nested too deep (`Json.document?_toSpreadJson`).
-/

namespace CoEdit
namespace Json

/-! ## Texts that are scanned -/

variable {cs more : List Char} {tokens tokens' : List Token}

/-- The text is read as the tokens wherever a token may begin, and nothing is left open at its end. -/
def Closes (cs : List Char) (tokens : List Token) : Prop :=
  ∀ ts, cs.foldlM Scan.step ⟨ts, .between⟩ = some ⟨tokens.reverse ++ ts, .between⟩

/-- The text is read as the tokens, if what may be left open at its end is settled. -/
def Scans (cs : List Char) (tokens : List Token) : Prop :=
  ∀ ts, ∃ s : Scan, cs.foldlM Scan.step ⟨ts, .between⟩ = some s ∧ s.settle = some ⟨tokens.reverse ++ ts, .between⟩

/-- A character that ends a word. -/
def IsDelimiter (c : Char) : Prop := isBlank c = true ∨ (Token.ofPunctuation? c).isSome

theorem Closes.scans (h : Closes cs tokens) : Scans cs tokens := fun ts => ⟨_, h ts, rfl⟩

theorem Closes.append (h : Closes cs tokens) (h' : Closes more tokens') : Closes (cs ++ more) (tokens ++ tokens') := by
  intro ts
  rw [List.foldlM_append, h ts, Option.bind_eq_bind, Option.bind_some, h']
  simp

theorem ne_quote_of_isDelimiter {c : Char} (hc : IsDelimiter c) : c ≠ '"' := by
  rintro rfl
  revert hc
  unfold IsDelimiter
  decide

/-- What ends a word is read as after the word. -/
theorem step_of_settle {s s' : Scan} {c : Char} (hc : IsDelimiter c) (h : s.settle = some s') : s.step c = s'.step c := by
  have hquote := ne_quote_of_isDelimiter hc
  have hbetween : s'.mode = .between := by
    unfold Scan.settle at h
    split at h
    · cases h
      assumption
    · obtain ⟨t, -, rfl⟩ := Option.map_eq_some_iff.1 h
      rfl
    · cases h
  have houtside : ∀ r : Scan, r.settle = some s' → r.step c = r.outside c := by
    intro r hr
    unfold Scan.settle at hr
    unfold Scan.step
    split at hr <;> simp_all
  have hself : s'.settle = some s' := by
    unfold Scan.settle
    rw [hbetween]
  rw [houtside s h, houtside s' hself, Scan.outside, Scan.outside, if_neg hquote, if_neg hquote, h, hself]
  rcases hc with hblank | hpunctuation
  · rw [if_pos hblank, if_pos hblank]
  · obtain ⟨t, ht⟩ := Option.isSome_iff_exists.1 hpunctuation
    rw [ht]

/-- A text goes on with something that ends a word. -/
def Parts (cs : List Char) : Prop := ∃ c rest, cs = c :: rest ∧ IsDelimiter c

theorem Parts.append (h : Parts cs) (more : List Char) : Parts (cs ++ more) := by
  obtain ⟨c, rest, rfl, hc⟩ := h
  exact ⟨c, rest ++ more, rfl, hc⟩

theorem foldlM_append_of_parts {s : Scan} {ts : List Token} (hs : cs.foldlM Scan.step ⟨ts, .between⟩ = some s)
    (hsettle : s.settle = some ⟨tokens.reverse ++ ts, .between⟩) (hmore : Parts more) :
    (cs ++ more).foldlM Scan.step ⟨ts, .between⟩ = more.foldlM Scan.step ⟨tokens.reverse ++ ts, .between⟩ := by
  obtain ⟨c, rest, rfl, hc⟩ := hmore
  rw [List.foldlM_append, hs, Option.bind_eq_bind, Option.bind_some, List.foldlM_cons, List.foldlM_cons, step_of_settle hc hsettle]

theorem Scans.append_closes (h : Scans cs tokens) (hmore : Parts more) (h' : Closes more tokens') :
    Closes (cs ++ more) (tokens ++ tokens') := by
  intro ts
  obtain ⟨s, hs, hsettle⟩ := h ts
  rw [foldlM_append_of_parts hs hsettle hmore, h']
  simp

/-! ## Strings -/

theorem hexDigits_control : ∀ n < 32, Decimal.natural? 16 ['0', '0', hexDigit (n / 16), hexDigit (n % 16)] = some n ∧
    (Decimal.digitValue? 16 (hexDigit (n / 16))).isSome := by
  decide

/-- A character of a string is read back. -/
theorem foldlM_writtenChar (c : Char) (ts : List Token) (cs : List Char) :
    (writtenChar c).foldlM Scan.step ⟨ts, .text { chars := some cs }⟩ = some ⟨ts, .text { chars := some (c :: cs) }⟩ := by
  unfold writtenChar
  split
  · rename_i hc
    subst hc
    rfl
  split
  · rename_i hc
    subst hc
    rfl
  split
  · rename_i hc
    subst hc
    rfl
  split
  · rename_i hc
    subst hc
    rfl
  split
  · rename_i hc
    subst hc
    rfl
  split
  · rename_i hc
    subst hc
    rfl
  split
  · rename_i hc
    subst hc
    rfl
  split
  · rename_i hcontrol
    -- a control character is written as its code point, in four digits
    have hlt : c.toNat < 32 := hcontrol
    obtain ⟨hvalue, hdigit⟩ := hexDigits_control c.toNat hlt
    have hzero : (Decimal.digitValue? 16 '0').isSome := by decide
    have hcode : Spelled.code { chars := some cs } c.toNat = { chars := some (c :: cs) } := by
      rw [Spelled.code]
      dsimp only
      rw [if_neg (by omega), if_neg (by omega), Char.ofNat_toNat]
      rfl
    simp [Scan.step, hzero, hdigit, hvalue, hcode]
  · rename_i hquote hbackslash _ _ _ _ _ hcontrol
    simp [Scan.step, Spelled.char, hquote, hbackslash, hcontrol]

theorem foldlM_writtenChars (text : List Char) (ts : List Token) (cs : List Char) :
    (text.flatMap writtenChar).foldlM Scan.step ⟨ts, .text { chars := some cs }⟩ =
      some ⟨ts, .text { chars := some (text.reverse ++ cs) }⟩ := by
  induction text generalizing cs with
  | nil => rfl
  | cons c text ih =>
    rw [List.flatMap_cons, List.foldlM_append, foldlM_writtenChar, Option.bind_eq_bind, Option.bind_some, ih]
    simp

theorem closes_writtenString (s : String) : Closes (writtenString s) [.string (some s)] := by
  intro ts
  have hopen : Scan.step ⟨ts, .between⟩ '"' = some ⟨ts, .text { chars := some [] }⟩ := rfl
  have hclose : Scan.step ⟨ts, .text { chars := some (s.toList.reverse ++ []) }⟩ '"' = some ⟨.string (some s) :: ts, .between⟩ := by
    simp [Scan.step, Spelled.text?]
  rw [writtenString, List.append_assoc, List.singleton_append, List.foldlM_cons, hopen, Option.bind_eq_bind, Option.bind_some,
    List.foldlM_append, foldlM_writtenChars, Option.bind_eq_bind, Option.bind_some, List.foldlM_cons, hclose]
  rfl

/-! ## Trees and their values -/

namespace Value

mutual

/-- The value of a tree. -/
def ofTree : Tree → Value
  | .null => .null
  | .bool b => .bool b
  | .number n => .number (some n)
  | .string s => .string (some s)
  | .array items => .array (ofItems items)
  | .object es => .object (ofEntries es)

/-- The values of the items. -/
def ofItems : List Tree → List Value
  | [] => []
  | t :: rest => ofTree t :: ofItems rest

/-- The values of the entries, with their keys. -/
def ofEntries : List (String × Tree) → List (Option String × Value)
  | [] => []
  | (k, t) :: rest => (some k, ofTree t) :: ofEntries rest

end

mutual

/-- All of the value of a tree can be had. -/
theorem tree?_ofTree (t : Tree) : (ofTree t).tree? = some t :=
  match t with
  | .null => rfl
  | .bool _ => rfl
  | .number _ => rfl
  | .string _ => rfl
  | .array items => by rw [ofTree, tree?, treesOf?_ofItems items, Option.map_some]
  | .object es => by rw [ofTree, tree?, entriesOf?_ofEntries es, Option.map_some]

theorem treesOf?_ofItems (items : List Tree) : treesOf? (ofItems items) = some items :=
  match items with
  | [] => rfl
  | t :: rest => by
    rw [ofItems, treesOf?, tree?_ofTree t, treesOf?_ofItems rest]
    rfl

theorem entriesOf?_ofEntries (es : List (String × Tree)) : entriesOf? (ofEntries es) = some es :=
  match es with
  | [] => rfl
  | (k, t) :: rest => by
    rw [ofEntries, entriesOf?, Option.bind_some, tree?_ofTree t, entriesOf?_ofEntries rest]
    rfl

end

end Value

mutual

/-- The tokens of a value. -/
def tokensOf : Value → List Token
  | .null => [.null]
  | .bool b => [.bool b]
  | .number n => [.number n]
  | .string s => [.string s]
  | .array [] => [.openArray, .closeArray]
  | .array (v :: rest) => .openArray :: tokensOf v ++ tokensOfItems rest ++ [.closeArray]
  | .object [] => [.openObject, .closeObject]
  | .object ((k, v) :: rest) => [.openObject, .string k, .colon] ++ tokensOf v ++ tokensOfEntries rest ++ [.closeObject]

/-- The tokens of the items after the first. -/
def tokensOfItems : List Value → List Token
  | [] => []
  | v :: rest => .comma :: tokensOf v ++ tokensOfItems rest

/-- The tokens of the entries after the first. -/
def tokensOfEntries : List (Option String × Value) → List Token
  | [] => []
  | (k, v) :: rest => [.comma, .string k, .colon] ++ tokensOf v ++ tokensOfEntries rest

end

mutual

/-- The numbers in a tree. -/
def numbersOf : Tree → List Number
  | .number n => [n]
  | .array items => numbersOfItems items
  | .object es => numbersOfEntries es
  | _ => []

def numbersOfItems : List Tree → List Number
  | [] => []
  | t :: rest => numbersOf t ++ numbersOfItems rest

def numbersOfEntries : List (String × Tree) → List Number
  | [] => []
  | (_, t) :: rest => numbersOf t ++ numbersOfEntries rest

end

theorem closes_newLine (level : Nat) : Closes (newLine level) [] := by
  intro ts
  have hblank : ∀ n, (List.replicate n ' ').foldlM Scan.step ⟨ts, .between⟩ = some (⟨ts, .between⟩ : Scan) := by
    intro n
    induction n with
    | zero => rfl
    | succ n ih =>
      have hstep : Scan.step ⟨ts, .between⟩ ' ' = some ⟨ts, .between⟩ := rfl
      rw [List.replicate_succ, List.foldlM_cons, hstep]
      exact ih
  have hstep : Scan.step ⟨ts, .between⟩ '\n' = some ⟨ts, .between⟩ := rfl
  rw [newLine, List.foldlM_cons, hstep]
  exact hblank _

theorem parts_newLine (level : Nat) : Parts (newLine level) := ⟨'\n', _, rfl, Or.inl rfl⟩

theorem parts_comma (cs : List Char) : Parts ([','] ++ cs) := ⟨',', cs, rfl, Or.inr rfl⟩

theorem closes_comma : Closes [','] [.comma] := fun _ => rfl

theorem closes_colon : Closes [':', ' '] [.colon] := fun _ => rfl

theorem closes_openArray : Closes ['['] [.openArray] := fun _ => rfl

theorem closes_closeArray : Closes [']'] [.closeArray] := fun _ => rfl

theorem closes_openObject : Closes ['\x7b'] [.openObject] := fun _ => rfl

theorem closes_closeObject : Closes ['\x7d'] [.closeObject] := fun _ => rfl

/-- The numbers of a tree are read back. -/
def NumbersScan (numbers : List Number) : Prop := ∀ n ∈ numbers, Scans n.text.toList [.number (some n)]

/-- A value on a line of its own, and what follows it. -/
theorem closes_line {value : List Char} {valueTokens : List Token} (level : Nat) (hvalue : Scans value valueTokens) (hmore : Parts more)
    (h : Closes more tokens) : Closes (newLine level ++ (value ++ more)) (valueTokens ++ tokens) :=
  (closes_newLine level).append (hvalue.append_closes hmore h)

/-- A key and a value on a line of their own, and what follows them. -/
theorem closes_entry {value : List Char} {valueTokens : List Token} (level : Nat) (k : String) (hvalue : Scans value valueTokens)
    (hmore : Parts more) (h : Closes more tokens) :
    Closes (newLine level ++ (writtenString k ++ ([':', ' '] ++ (value ++ more)))) ([.string (some k), .colon] ++ (valueTokens ++ tokens)) :=
  (closes_newLine level).append ((closes_writtenString k).append (closes_colon.append (hvalue.append_closes hmore h)))

mutual

/-- A tree is read as its tokens. -/
theorem scans_spread (level : Nat) (t : Tree) (hn : NumbersScan (numbersOf t)) : Scans (spread level t) (tokensOf (.ofTree t)) :=
  match t with
  | .null => fun ts => ⟨_, rfl, rfl⟩
  | .bool true => fun ts => ⟨_, rfl, rfl⟩
  | .bool false => fun ts => ⟨_, rfl, rfl⟩
  | .number n => hn n (by simp [numbersOf])
  | .string s => (closes_writtenString s).scans
  | .array [] => (closes_openArray.append closes_closeArray).scans
  | .array (t :: rest) => by
    have hfirst := scans_spread (level + 1) t fun n h => hn n (by simp [numbersOf, numbersOfItems, h])
    have hend := (closes_newLine level).append closes_closeArray
    obtain ⟨hparts, hrest⟩ := scans_spreadItems level rest (fun n h => hn n (by simp [numbersOf, numbersOfItems, h])) _ _
      ((parts_newLine level).append _) hend
    have hall := closes_openArray.append (closes_line (level + 1) hfirst hparts hrest)
    simpa [spread, tokensOf, Value.ofTree, Value.ofItems, Value.ofEntries] using hall.scans
  | .object [] => (closes_openObject.append closes_closeObject).scans
  | .object ((k, t) :: rest) => by
    have hfirst := scans_spread (level + 1) t fun n h => hn n (by simp [numbersOf, numbersOfEntries, h])
    have hend := (closes_newLine level).append closes_closeObject
    obtain ⟨hparts, hrest⟩ := scans_spreadEntries level rest (fun n h => hn n (by simp [numbersOf, numbersOfEntries, h])) _ _
      ((parts_newLine level).append _) hend
    have hall := closes_openObject.append (closes_entry (level + 1) k hfirst hparts hrest)
    simpa [spread, tokensOf, Value.ofTree, Value.ofItems, Value.ofEntries] using hall.scans

/-- Items after the first are read as their tokens, before anything that ends a word. -/
theorem scans_spreadItems (level : Nat) (rest : List Tree) (hn : NumbersScan (numbersOfItems rest)) (more : List Char)
    (tokens : List Token) (hmore : Parts more) (h : Closes more tokens) :
    Parts (spreadItems level rest ++ more) ∧ Closes (spreadItems level rest ++ more) (tokensOfItems (Value.ofItems rest) ++ tokens) :=
  match rest with
  | [] => ⟨hmore, h⟩
  | t :: rest => by
    have hfirst := scans_spread (level + 1) t fun n h => hn n (by simp [numbersOfItems, h])
    obtain ⟨hparts, hrest⟩ := scans_spreadItems level rest (fun n h => hn n (by simp [numbersOfItems, h])) more tokens hmore h
    have hall := closes_comma.append (closes_line (level + 1) hfirst hparts hrest)
    exact ⟨by simpa [spreadItems] using parts_comma _, by simpa [spreadItems, tokensOfItems, Value.ofItems] using hall⟩

/-- Entries after the first are read as their tokens, before anything that ends a word. -/
theorem scans_spreadEntries (level : Nat) (rest : List (String × Tree)) (hn : NumbersScan (numbersOfEntries rest)) (more : List Char)
    (tokens : List Token) (hmore : Parts more) (h : Closes more tokens) :
    Parts (spreadEntries level rest ++ more) ∧ Closes (spreadEntries level rest ++ more) (tokensOfEntries (Value.ofEntries rest) ++ tokens) :=
  match rest with
  | [] => ⟨hmore, h⟩
  | (k, t) :: rest => by
    have hfirst := scans_spread (level + 1) t fun n h => hn n (by simp [numbersOfEntries, h])
    obtain ⟨hparts, hrest⟩ := scans_spreadEntries level rest (fun n h => hn n (by simp [numbersOfEntries, h])) more tokens hmore h
    have hall := closes_comma.append (closes_entry (level + 1) k hfirst hparts hrest)
    exact ⟨by simpa [spreadEntries] using parts_comma _, by simpa [spreadEntries, tokensOfEntries, Value.ofEntries] using hall⟩

end

/-- The tokens of a document are those of its tree. -/
theorem tokens?_spread (t : Tree) (hn : NumbersScan (numbersOf t)) : tokens? (spread 0 t) = some (tokensOf (.ofTree t)) := by
  obtain ⟨s, hs, hsettle⟩ := scans_spread 0 t hn []
  rw [tokens?, hs, Option.bind_some, hsettle]
  simp

/-! ## Values from tokens -/

/-- Nothing begins with a closing bracket, so a list or an object may begin with any value. -/
theorem exists_tokensOf_eq (v : Value) : ∃ first more, tokensOf v = first :: more ∧ ∀ frames, Reader.step ⟨frames, .itemOrClose⟩ first =
    Reader.step ⟨frames, .value⟩ first := by
  cases v with
  | null => exact ⟨_, _, rfl, fun _ => rfl⟩
  | bool b => exact ⟨_, _, rfl, fun _ => rfl⟩
  | number n => exact ⟨_, _, rfl, fun _ => rfl⟩
  | string s => exact ⟨_, _, rfl, fun _ => rfl⟩
  | array items => cases items <;> exact ⟨_, _, rfl, fun _ => rfl⟩
  | object es =>
    rcases es with _ | ⟨⟨k, v⟩, es⟩ <;> exact ⟨_, _, rfl, fun _ => rfl⟩

theorem foldlM_tokensOf_item (v : Value) (more : List Token) (frames : List Frame) :
    (tokensOf v ++ more).foldlM Reader.step ⟨frames, .itemOrClose⟩ = (tokensOf v ++ more).foldlM Reader.step ⟨frames, .value⟩ := by
  obtain ⟨first, rest, hv, hstep⟩ := exists_tokensOf_eq v
  rw [hv, List.cons_append, List.foldlM_cons, List.foldlM_cons, hstep]

theorem step_openArray (frames : List Frame) :
    Reader.step ⟨frames, .value⟩ .openArray = some ⟨.array [] :: frames, .itemOrClose⟩ := rfl

theorem step_closeArray (items : List Value) (frames : List Frame) : Reader.step ⟨.array items :: frames, .separator⟩ .closeArray =
    some (Reader.place frames (.array items.reverse)) := rfl

theorem step_closeObject (es : List (Option String × Value)) (k : Option String) (frames : List Frame) :
    Reader.step ⟨.object es k :: frames, .separator⟩ .closeObject = some (Reader.place frames (.object es.reverse)) := rfl

mutual

/-- The tokens of a value are read as the value, whatever brackets are open. -/
theorem reads_tokensOf (v : Value) (frames : List Frame) (more : List Token) :
    (tokensOf v ++ more).foldlM Reader.step ⟨frames, .value⟩ = more.foldlM Reader.step (Reader.place frames v) :=
  match v with
  | .null => rfl
  | .bool _ => rfl
  | .number _ => rfl
  | .string _ => rfl
  | .array [] => rfl
  | .array (v :: rest) => by
    have hfirst := reads_tokensOf v (.array [] :: frames) (tokensOfItems rest ++ .closeArray :: more)
    have hrest := reads_tokensOfItems rest [v] frames (.closeArray :: more)
    rw [tokensOf, List.append_assoc, List.append_assoc, List.cons_append, List.foldlM_cons, step_openArray,
      Option.bind_eq_bind, Option.bind_some, List.singleton_append, foldlM_tokensOf_item, hfirst]
    refine hrest.trans ?_
    rw [List.foldlM_cons, step_closeArray, List.reverse_append, List.reverse_reverse]
    rfl
  | .object [] => rfl
  | .object ((k, v) :: rest) => by
    have hfirst := reads_tokensOf v (.object [] k :: frames) (tokensOfEntries rest ++ .closeObject :: more)
    obtain ⟨last, hrest⟩ := reads_tokensOfEntries rest [(k, v)] k frames
    have hopen : [Token.openObject, .string k, .colon].foldlM Reader.step ⟨frames, .value⟩ = some ⟨.object [] k :: frames, .value⟩ := rfl
    rw [tokensOf, List.append_assoc, List.append_assoc, List.append_assoc, List.foldlM_append, hopen, Option.bind_eq_bind,
      Option.bind_some, List.singleton_append, hfirst]
    refine (hrest (.closeObject :: more)).trans ?_
    rw [List.foldlM_cons, step_closeObject, List.reverse_append, List.reverse_reverse]
    rfl

/-- The tokens of items are read into the list that is open. -/
theorem reads_tokensOfItems (rest items : List Value) (frames : List Frame) (more : List Token) :
    (tokensOfItems rest ++ more).foldlM Reader.step ⟨.array items :: frames, .separator⟩ =
      more.foldlM Reader.step ⟨.array (rest.reverse ++ items) :: frames, .separator⟩ :=
  match rest with
  | [] => rfl
  | v :: rest => by
    have hfirst := reads_tokensOf v (.array items :: frames) (tokensOfItems rest ++ more)
    have hrest := reads_tokensOfItems rest (v :: items) frames more
    have hcomma : Reader.step ⟨.array items :: frames, .separator⟩ .comma = some ⟨.array items :: frames, .value⟩ := rfl
    rw [tokensOfItems, List.append_assoc, List.cons_append, List.foldlM_cons, hcomma, Option.bind_eq_bind, Option.bind_some, hfirst]
    refine hrest.trans ?_
    simp

/-- The tokens of entries are read into the object that is open. -/
theorem reads_tokensOfEntries (rest es : List (Option String × Value)) (k : Option String) (frames : List Frame) :
    ∃ last, ∀ more : List Token, (tokensOfEntries rest ++ more).foldlM Reader.step ⟨.object es k :: frames, .separator⟩ =
      more.foldlM Reader.step ⟨.object (rest.reverse ++ es) last :: frames, .separator⟩ :=
  match rest with
  | [] => ⟨k, fun _ => rfl⟩
  | (j, v) :: rest => by
    have hfirst := reads_tokensOf v (.object es j :: frames)
    obtain ⟨last, hrest⟩ := reads_tokensOfEntries rest ((j, v) :: es) j frames
    refine ⟨last, fun more => ?_⟩
    have hkey : [Token.comma, .string j, .colon].foldlM Reader.step ⟨.object es k :: frames, .separator⟩ =
        some ⟨.object es j :: frames, .value⟩ := rfl
    rw [tokensOfEntries, List.append_assoc, List.append_assoc, List.foldlM_append, hkey, Option.bind_eq_bind, Option.bind_some, hfirst]
    refine (hrest more).trans ?_
    simp

end

/-! ## Documents -/

/-- A document with the tokens of a value is read as the value. -/
theorem value?_of_tokens {text : String} {v : Value} (h : tokens? text.toList = some (tokensOf v)) : value? text = some v := by
  have hread := reads_tokensOf v [] []
  rw [List.append_nil] at hread
  rw [value?, h, Option.bind_some, ofTokens?]
  exact (congrArg (Option.bind · Reader.result) hread).trans rfl

/-- A number may be too large, and a string may be no text. -/
example : value? "[1e999,\"\\ud800\"]" = some (.array [.number none, .string none]) := by rfl

/-- The value of a document that is written is the value of its tree. -/
theorem value?_toSpreadJson (t : Tree) (hn : NumbersScan (numbersOf t)) : value? t.toSpreadJson = some (.ofTree t) := by
  refine value?_of_tokens ?_
  rw [Tree.toSpreadJson, String.toList_ofList, tokens?_spread t hn]

/-- A document that is written is read back as it was, every entry in its order. -/
theorem document?_toSpreadJson (t : Tree) (hn : NumbersScan (numbersOf t)) (hdepth : (Value.ofTree t).depth ≤ depthLimit) :
    document? t.toSpreadJson = some t := by
  rw [document?, value?_toSpreadJson t hn, Option.bind_some, if_pos hdepth, Value.tree?_ofTree]

end Json
end CoEdit
