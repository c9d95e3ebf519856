import ReleaseStaging.Json.Reader
import ReleaseStaging.Proofs.Json.Words

/-!
# Reading what the grammar allows

Main statement: every text that the grammar of JSON allows for a document is read as this document.
The proof follows the grammar: each of its rules is matched by one way to compose what is cut into
words and put together again.
-/

namespace ReleaseStaging.Json

open Text (Stops)

/-! ## Texts of words -/

/-- A text is cut into words, whatever stands behind it that does not go on a number. -/
def LexesAs (text : List Char) (tokens : List Token) : Prop :=
  ∀ rest, Stops goesOn rest → tokens? (text ++ rest) = (tokens? rest).map (tokens ++ ·)

/-- White space does not go on a number. -/
theorem stops_of_isGap {gap : List Char} (h : IsGap gap) : Stops goesOn gap := by
  intro c hc
  have hspace : ∀ c ∈ [' ', '\n', '\t', '\r'], goesOn c = false := by decide
  exact hspace c (by simpa [isSpace, or_assoc] using h c (List.mem_of_mem_head? hc))

namespace LexesAs

variable {text other : List Char} {tokens others : List Token}

theorem gap {gap : List Char} (h : IsGap gap) : LexesAs gap [] := by
  intro rest _
  simp [tokens?_gap_append h]

theorem number {number : Number} (h : number.IsWritten text) :
    LexesAs text [.number number] := by
  intro rest hrest
  simpa using tokens?_number h hrest

theorem word {value : Option Bool} (h : (text, value) ∈ words) : LexesAs text [.word value] := by
  intro rest _
  simpa using tokens?_word h rest

theorem string {literal : List Char} (h : IsLiteral literal) :
    LexesAs (quotedLiteral literal) [.string literal] := by
  intro rest _
  simpa using tokens?_quotedLiteral h rest

/-- White space may stand before words. -/
theorem gap_append (h : LexesAs text tokens) {gap : List Char} (hgap : IsGap gap) :
    LexesAs (gap ++ text) tokens := by
  intro rest hrest
  rw [List.append_assoc, tokens?_gap_append hgap, h rest hrest]

/-- A mark may stand before words. -/
theorem mark_cons (h : LexesAs text tokens) {c : Char} (hc : isMark c = true) :
    LexesAs (c :: text) (.mark c :: tokens) := by
  intro rest hrest
  rw [List.cons_append, tokens?_mark hc, h rest hrest, Option.map_map]
  rfl

/-- A string may stand before words. -/
theorem string_append (h : LexesAs text tokens) {literal : List Char}
    (hliteral : IsLiteral literal) :
    LexesAs (quotedLiteral literal ++ text) (.string literal :: tokens) := by
  intro rest hrest
  rw [List.append_assoc, tokens?_quotedLiteral hliteral, h rest hrest, Option.map_map]
  rfl

/-- Any words may stand before what does not go on a number. -/
theorem append (h : LexesAs text tokens) (hother : LexesAs other others)
    (hstops : Stops goesOn other) : LexesAs (text ++ other) (tokens ++ others) := by
  intro rest hrest
  have hboth : Stops goesOn (other ++ rest) := by
    cases other with
    | nil => exact hrest
    | cons c other => exact Text.stops_cons.mpr (Text.stops_cons.mp hstops)
  rw [List.append_assoc, h _ hboth, hother rest hrest, Option.map_map]
  congr 1
  funext rest
  simp

end LexesAs

/-! ## Words of documents -/

/-- No value starts with a bracket that closes. -/
theorem value?_closing (n : Nat) (tokens : List Token) : value? n (.mark ']' :: tokens) = none := by
  cases n <;> rw [value?] <;> nofun

/-- The values of a list make a list. -/
theorem value?_array {n : Nat} {tokens rest : List Token} {items : List Json}
    (h : items? n tokens = some (items, rest)) :
    value? (n + 1) (.mark '[' :: tokens) = some (.array items, rest) := by
  have hfirst : ∀ others, tokens ≠ .mark ']' :: others := by
    rintro others rfl
    cases n with
    | zero => simp [items?] at h
    | succ n => simp [items?, value?_closing] at h
  rw [value?]
  · rw [h]; rfl
  · exact hfirst

/-- The members of an object make an object. -/
theorem value?_object {n : Nat} {tokens rest : List Token} {members : List (List Char × Json)}
    (h : members? n tokens = some (members, rest)) :
    value? (n + 1) (.mark '{' :: tokens) = some (.object members, rest) := by
  have hfirst : ∀ others, tokens ≠ .mark '}' :: others := by
    rintro others rfl
    simp [members?] at h
  rw [value?]
  · rw [h]; rfl
  · exact hfirst

/-- A text is read as a document, given two steps for each of its words. -/
def Reads (document : Json) (text : List Char) : Prop :=
  ∃ tokens, LexesAs text tokens ∧ ∀ n rest, 2 * tokens.length ≤ n + 1 →
    value? n (tokens ++ rest) = some (document, rest)

/-- A text is read as the values of a list that is closed behind it. -/
def ReadsItems (items : List Json) (text : List Char) : Prop :=
  ∃ tokens, LexesAs text tokens ∧ ∀ n rest, 2 * tokens.length + 2 ≤ n →
    items? n (tokens ++ .mark ']' :: rest) = some (items, rest)

/-- A text is read as a name, a colon and a value. -/
def ReadsMember (member : List Char × Json) (text : List Char) : Prop :=
  ∃ tokens, LexesAs text (.string member.1 :: .mark ':' :: tokens) ∧
    ∀ n rest, 2 * tokens.length ≤ n + 1 → value? n (tokens ++ rest) = some (member.2, rest)

/-- A text is read as the members of an object that is closed behind it. -/
def ReadsMembers (members : List (List Char × Json)) (text : List Char) : Prop :=
  ∃ tokens, LexesAs text tokens ∧ ∀ n rest, 2 * tokens.length + 2 ≤ n →
    members? n (tokens ++ .mark '}' :: rest) = some (members, rest)

/-- A value of one word is read in one step. -/
theorem reads_of_token {document : Json} {text : List Char} {token : Token}
    (htext : LexesAs text [token])
    (h : ∀ n rest, value? (n + 1) (token :: rest) = some (document, rest)) :
    Reads document text := by
  refine ⟨[token], htext, fun n rest hn => ?_⟩
  simp only [List.length_cons, List.length_nil] at hn
  obtain ⟨n, rfl⟩ : ∃ m, n = m + 1 := ⟨n - 1, by omega⟩
  exact h n rest

/-- White space around a document makes no difference. -/
theorem Reads.padded {document : Json} {before text after : List Char} (h : Reads document text)
    (hbefore : IsGap before) (hafter : IsGap after) : Reads document (before ++ text ++ after) := by
  obtain ⟨tokens, htext, hvalue⟩ := h
  refine ⟨tokens, ?_, hvalue⟩
  rw [List.append_assoc]
  have happended := htext.append (.gap hafter) (stops_of_isGap hafter)
  rw [List.append_nil] at happended
  exact happended.gap_append hbefore

/-- What stands between two marks is read together with them. -/
theorem reads_enclosed {document : Json} {text : List Char} {tokens : List Token}
    {opening closing : Char} (hopening : isMark opening = true) (hclosing : isMark closing = true)
    (htext : LexesAs text tokens)
    (hvalue : ∀ n rest, 2 * tokens.length + 2 ≤ n →
      value? (n + 1) (.mark opening :: (tokens ++ .mark closing :: rest)) =
        some (document, rest)) :
    Reads document (opening :: text ++ [closing]) := by
  have hmarks : ∀ c ∈ ['{', '}', '[', ']', ',', ':'], goesOn c = false := by decide
  have hstops : Stops goesOn [closing] :=
    Text.stops_cons.mpr (hmarks closing (by simpa [isMark] using hclosing))
  have hend : LexesAs [closing] [.mark closing] := (LexesAs.gap isGap_nil).mark_cons hclosing
  refine ⟨_, (htext.append hend hstops).mark_cons hopening, fun n rest hn => ?_⟩
  simp only [List.length_cons, List.length_append, List.length_nil] at hn
  obtain ⟨n, rfl⟩ : ∃ m, n = m + 1 := ⟨n - 1, by omega⟩
  rw [List.cons_append, List.append_assoc]
  exact hvalue n rest (by omega)

/-- An empty list is two marks. -/
theorem reads_emptyArray {gap : List Char} (h : IsGap gap) :
    Reads (.array []) ('[' :: gap ++ [']']) :=
  reads_enclosed rfl rfl (.gap h) fun _ _ _ => rfl

/-- An empty object is two marks. -/
theorem reads_emptyObject {gap : List Char} (h : IsGap gap) :
    Reads (.object []) ('{' :: gap ++ ['}']) :=
  reads_enclosed rfl rfl (.gap h) fun _ _ _ => rfl

/-- The values of a list stand in brackets. -/
theorem ReadsItems.array {items : List Json} {text : List Char} (h : ReadsItems items text) :
    Reads (.array items) ('[' :: text ++ [']']) := by
  obtain ⟨tokens, htext, hitems⟩ := h
  exact reads_enclosed rfl rfl htext fun n rest hn => value?_array (hitems n rest hn)

/-- The members of an object stand in braces. -/
theorem ReadsMembers.object {members : List (List Char × Json)} {text : List Char}
    (h : ReadsMembers members text) : Reads (.object members) ('{' :: text ++ ['}']) := by
  obtain ⟨tokens, htext, hmembers⟩ := h
  exact reads_enclosed rfl rfl htext fun n rest hn => value?_object (hmembers n rest hn)

/-- The last value of a list. -/
theorem Reads.items_last {item : Json} {text : List Char} (h : Reads item text) :
    ReadsItems [item] text := by
  obtain ⟨tokens, htext, hvalue⟩ := h
  refine ⟨tokens, htext, fun n rest hn => ?_⟩
  obtain ⟨n, rfl⟩ : ∃ m, n = m + 1 := ⟨n - 1, by omega⟩
  simp only [items?, hvalue n _ (show 2 * tokens.length ≤ n + 1 by omega)]

/-- A value of a list before others. -/
theorem Reads.items_cons {item : Json} {items : List Json} {text others : List Char}
    (h : Reads item text) (hitems : ReadsItems items others) :
    ReadsItems (item :: items) (text ++ ',' :: others) := by
  obtain ⟨tokens, htext, hvalue⟩ := h
  obtain ⟨rest, hothers, hread⟩ := hitems
  refine ⟨tokens ++ .mark ',' :: rest,
    htext.append (hothers.mark_cons rfl) (Text.stops_cons.mpr rfl), fun n after hn => ?_⟩
  obtain ⟨n, rfl⟩ : ∃ m, n = m + 1 := ⟨n - 1, by omega⟩
  simp only [List.length_cons, List.length_append] at hn
  simp only [List.append_assoc, List.cons_append, items?,
    hvalue n _ (show 2 * tokens.length ≤ n + 1 by omega),
    hread n after (show 2 * rest.length + 2 ≤ n by omega)]
  rfl

/-- A name, a colon and a value make a member. -/
theorem Reads.member {name : List Char} {value : Json} {before after text : List Char}
    (h : Reads value text) (hbefore : IsGap before) (hname : IsLiteral name)
    (hafter : IsGap after) :
    ReadsMember (name, value) (before ++ quotedLiteral name ++ after ++ ':' :: text) := by
  obtain ⟨tokens, htext, hvalue⟩ := h
  refine ⟨tokens, ?_, hvalue⟩
  simp only [List.append_assoc]
  exact (((htext.mark_cons rfl).gap_append hafter).string_append hname).gap_append hbefore

/-- The last member of an object. -/
theorem ReadsMember.last {member : List Char × Json} {text : List Char}
    (h : ReadsMember member text) : ReadsMembers [member] text := by
  obtain ⟨tokens, htext, hvalue⟩ := h
  refine ⟨.string member.1 :: .mark ':' :: tokens, htext, fun n rest hn => ?_⟩
  obtain ⟨n, rfl⟩ : ∃ m, n = m + 1 := ⟨n - 1, by omega⟩
  simp only [List.length_cons] at hn
  simp only [List.cons_append, members?, hvalue n _ (show 2 * tokens.length ≤ n + 1 by omega)]

/-- A member of an object before others. -/
theorem ReadsMember.cons {member : List Char × Json} {members : List (List Char × Json)}
    {text others : List Char} (h : ReadsMember member text)
    (hmembers : ReadsMembers members others) :
    ReadsMembers (member :: members) (text ++ ',' :: others) := by
  obtain ⟨tokens, htext, hvalue⟩ := h
  obtain ⟨rest, hothers, hread⟩ := hmembers
  refine ⟨.string member.1 :: .mark ':' :: tokens ++ .mark ',' :: rest,
    htext.append (hothers.mark_cons rfl) (Text.stops_cons.mpr rfl), fun n after hn => ?_⟩
  obtain ⟨n, rfl⟩ : ∃ m, n = m + 1 := ⟨n - 1, by omega⟩
  simp only [List.length_cons, List.length_append] at hn
  simp only [List.cons_append, List.append_assoc, members?,
    hvalue n _ (show 2 * tokens.length ≤ n + 1 by omega),
    hread n after (show 2 * rest.length + 2 ≤ n by omega)]
  rfl

/-! ## Every text of the grammar -/

mutual

/-- What writes a document is read as it. -/
theorem reads_of_spells {document : Json} {text : List Char} :
    Spells document text → Reads document text
  | .null => reads_of_token (.word (show (_, none) ∈ words by decide)) fun _ _ => rfl
  | .true => reads_of_token (.word (show (_, some true) ∈ words by decide)) fun _ _ => rfl
  | .false => reads_of_token (.word (show (_, some false) ∈ words by decide)) fun _ _ => rfl
  | .number h => reads_of_token (.number h) fun _ _ => rfl
  | .string h => reads_of_token (.string h) fun _ _ => rfl
  | .emptyArray h => reads_emptyArray h
  | .array h => (readsItems_of_spells h).array
  | .emptyObject h => reads_emptyObject h
  | .object h => (readsMembers_of_spells h).object

/-- White space around it makes no difference. -/
theorem reads_of_spellsPadded {document : Json} {text : List Char} :
    SpellsPadded document text → Reads document text
  | .intro hbefore h hafter => (reads_of_spells h).padded hbefore hafter

/-- What writes values is read as them. -/
theorem readsItems_of_spells {items : List Json} {text : List Char} :
    SpellsItems items text → ReadsItems items text
  | .last h => (reads_of_spellsPadded h).items_last
  | .cons h hitems => (reads_of_spellsPadded h).items_cons (readsItems_of_spells hitems)

/-- What writes a member is read as it. -/
theorem readsMember_of_spells {member : List Char × Json} {text : List Char} :
    SpellsMember member text → ReadsMember member text
  | .intro hbefore hname hafter h => (reads_of_spellsPadded h).member hbefore hname hafter

/-- What writes members is read as them. -/
theorem readsMembers_of_spells {members : List (List Char × Json)} {text : List Char} :
    SpellsMembers members text → ReadsMembers members text
  | .last h => (readsMember_of_spells h).last
  | .cons h hmembers => (readsMember_of_spells h).cons (readsMembers_of_spells hmembers)

end

/-- Every text that the grammar allows for a document is read as this document. -/
theorem ofString?_of_isTextOf {document : Json} {text : String} (h : IsTextOf document text) :
    ofString? text = some document := by
  obtain ⟨tokens, htext, hvalue⟩ := reads_of_spellsPadded h
  have htokens : tokens? text.toList = some tokens := by
    have hall := htext [] (Text.stops_nil _)
    rwa [List.append_nil, tokens?_gap isGap_nil, Option.map_some, List.append_nil] at hall
  have hread := hvalue (stepsFor tokens) [] (by rw [stepsFor]; omega)
  rw [List.append_nil] at hread
  rw [ofString?, htokens]
  simp only [hread]

end ReleaseStaging.Json
