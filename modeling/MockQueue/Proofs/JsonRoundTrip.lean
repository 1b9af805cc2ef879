import MockQueue.Proofs.JsonLexemes

/-!
# Settings written as JSON and read again

An object has its members in any of the spellings of JSON (`IsObject`). Of the codec it is known that it writes such
objects, with an escape for every character that needs one, and fills in a record by the names of its fields, with
defaults for those that are missing (`JsonCodec.Lawful`). So settings are read back as they were written, or refused
for what makes them invalid, and the same holds of the object of any of their members in any order
(`json_round_trip`). The plain codec is lawful (`plain_lawful`).
-/

namespace MockQueue

open Number (Radix decimalText valueOf wordSize)
open Settings (Token Field)

/-! ## Objects -/

def JsonValue.token : JsonValue → Token
  | number n => .number (some n)
  | string text => .string (some text.toList)
  | bool b => .bool b

/-- A member with its value. -/
def memberTokens (m : String × JsonValue) : List Token :=
  [.string (some m.1.toList), .colon, m.2.token]

def objectTokens (members : List (String × JsonValue)) : List Token :=
  .openBrace :: (List.intercalate [.comma] (members.map memberTokens) ++ [.closeBrace])

/-- The text is an object with those members in that order, in any spelling and with blanks between its parts. -/
def IsObject (members : List (String × JsonValue)) (text : String) : Prop :=
  Token.Lexed (objectTokens members) text.toList

/-- The member is one that settings can have: it has the name of a field and a value of its type. -/
def IsMember (m : String × JsonValue) : Prop :=
  ∃ (s : Settings) (f : Field), s.capacity < wordSize ∧ m = s.member f

/-- What is known of a codec: settings are written as an object of their fields in standard JSON, and read from any
such object by the names of the fields, those that are missing being as in the defaults. -/
structure JsonCodec.Lawful (codec : JsonCodec) : Prop where
  writes : ∀ s : Settings, s.capacity < wordSize → IsObject s.members (codec.write s.members)
  reads : ∀ (default : Settings) {members : List (String × JsonValue)} {text : String}, IsObject members text →
    (members.map Prod.fst).Nodup → (∀ m ∈ members, IsMember m) →
    ∃ s, codec.read default text = .ok s ∧ members ⊆ s.members ∧
      ∀ m ∈ default.members, m.1 ∉ members.map Prod.fst → m ∈ s.members

namespace Settings

/-- The settings that have the given fields of `s`, and defaults for the others. -/
def only (s : Settings) (fields : List Field) : Settings :=
  let default : Settings := {}
  { capacity := if .capacity ∈ fields then s.capacity else default.capacity
    marker := if .marker ∈ fields then s.marker else default.marker
    unbindOnVerify := if .unbind ∈ fields then s.unbindOnVerify else default.unbindOnVerify }

/-- The text is read as the settings if they are valid, and refused with the error that says why they are not. -/
def ReadsAs (codec : JsonCodec) (text : String) (s : Settings) : Prop :=
  match s.validate with
  | .ok _ => ofJson codec text = .ok s
  | .error p => ofJson codec text = .error (.config p.message)

/-! ## Settings and their members -/

theorem Field.name_injective {f g : Field} (same : f.name = g.name) : f = g := by
  revert same
  cases f <;> cases g <;> decide

theorem mem_members {s : Settings} {m : String × JsonValue} : m ∈ s.members ↔ ∃ f : Field, m = s.member f := by
  constructor
  · intro member
    obtain ⟨f, -, rfl⟩ := List.mem_map.mp member
    exact ⟨f, rfl⟩
  · rintro ⟨f, rfl⟩
    exact List.mem_map_of_mem (by cases f <;> decide)

/-- Settings that have a member of others agree with them in its field. -/
theorem value_of_mem {s t : Settings} {f : Field} (member : t.member f ∈ s.members) : f.value s = f.value t := by
  obtain ⟨g, same⟩ := mem_members.mp member
  obtain ⟨names, values⟩ := Prod.mk.inj same
  obtain rfl := Field.name_injective names
  exact values.symm

theorem eq_of_values {s t : Settings} (same : ∀ f : Field, f.value s = f.value t) : s = t := by
  cases s
  cases t
  congr 1
  · exact JsonValue.number.inj (same .capacity)
  · exact JsonValue.string.inj (same .marker)
  · exact JsonValue.bool.inj (same .unbind)

theorem value_only (s : Settings) (fields : List Field) (f : Field) :
    f.value (s.only fields) = if f ∈ fields then f.value s else f.value {} := by
  cases f <;> simp only [only, Field.value] <;> split <;> rfl

/-- An object of some members is read as the settings that have these. -/
theorem readsAs_of_isObject {codec : JsonCodec} (lawful : codec.Lawful) {s : Settings} (word : s.capacity < wordSize)
    {fields : List Field} (nodup : fields.Nodup) {text : String} (object : IsObject (fields.map s.member) text) :
    ReadsAs codec text (s.only fields) := by
  have names : (fields.map s.member).map Prod.fst = fields.map Field.name := by
    rw [List.map_map]
    rfl
  have apart : ((fields.map s.member).map Prod.fst).Nodup := by
    rw [names]
    exact List.pairwise_map.mpr (List.Pairwise.imp (fun other same => other (Field.name_injective same)) nodup)
  have fits : ∀ m ∈ fields.map s.member, IsMember m := by
    intro m member
    obtain ⟨f, -, rfl⟩ := List.mem_map.mp member
    exact ⟨s, f, word, rfl⟩
  obtain ⟨found, read, given, missing⟩ := lawful.reads {} object apart fits
  obtain rfl : found = s.only fields := by
    refine eq_of_values fun f => ?_
    rw [value_only]
    split
    · rename_i member
      exact value_of_mem (given (List.mem_map_of_mem member))
    · rename_i other
      refine value_of_mem (missing _ (mem_members.mpr ⟨f, rfl⟩) ?_)
      rw [names]
      rintro member
      obtain ⟨g, memberG, same⟩ := List.mem_map.mp member
      exact other (Field.name_injective same ▸ memberG)
  unfold ReadsAs
  cases checked : (s.only fields).validate with
  | ok t =>
    obtain ⟨-, rfl⟩ := (validate_eq_ok_iff _ t).mp checked
    simp only [ofJson, read, checked]
  | error p => simp only [ofJson, read, checked, Problem.error]

theorem only_all (s : Settings) : s.only [.capacity, .marker, .unbind] = s :=
  eq_of_values fun f => by rw [value_only, if_pos (by cases f <;> decide)]

/-! ## The plain codec -/

namespace Members

/-- What was found for a field. -/
def value? (found : Members) : Field → Option JsonValue
  | .capacity => found.capacity.map .number
  | .marker => found.marker.map .string
  | .unbind => found.unbind.map .bool

/-- What has been found once a field of `s` was read too. -/
def take (found : Members) (s : Settings) : Field → Members
  | .capacity => { found with capacity := some s.capacity }
  | .marker => { found with marker := some s.marker }
  | .unbind => { found with unbind := some s.unbindOnVerify }

theorem value?_take (found : Members) (s : Settings) (f g : Field) :
    (found.take s f).value? g = if g = f then some (g.value s) else found.value? g := by
  cases f <;> cases g <;> rfl

theorem value_settings (found : Members) (default : Settings) (f : Field) :
    f.value (found.settings default) = (found.value? f).getD (f.value default) := by
  cases f
  · cases capacity : found.capacity <;> simp [settings, value?, Field.value, capacity]
  · cases marker : found.marker <;> simp [settings, value?, Field.value, marker]
  · cases unbind : found.unbind <;> simp [settings, value?, Field.value, unbind]

/-- After the last member comes the closing brace. -/
theorem readMembers_last {found next : Members} {key : List Char} {tokens : List Token}
    (read : found.readValue key tokens = some (next, [.closeBrace])) :
    found.readMembers (.string (some key) :: .colon :: tokens) = some next := by
  rw [readMembers]
  split <;> simp_all

/-- After another member comes a comma. -/
theorem readMembers_more {found next : Members} {key : List Char} {tokens rest : List Token}
    (read : found.readValue key tokens = some (next, .comma :: rest)) :
    found.readMembers (.string (some key) :: .colon :: tokens) = next.readMembers rest := by
  rw [readMembers]
  split <;> simp_all

/-- The value of a field that was not found before is taken. -/
theorem readValue_take {found : Members} {s : Settings} (word : s.capacity < wordSize) {f : Field}
    (new : found.value? f = none) (rest : List Token) :
    found.readValue f.name.toList ((f.value s).token :: rest) = some (found.take s f, rest) := by
  have otherNames : Field.marker.name.toList ≠ Field.capacity.name.toList ∧
      Field.unbind.name.toList ≠ Field.capacity.name.toList ∧
      Field.unbind.name.toList ≠ Field.marker.name.toList := by decide
  cases f with
  | capacity =>
    have none := Option.map_eq_none_iff.mp new
    simp [readValue, readCapacity, Field.value, JsonValue.token, take, none, word]
  | marker =>
    have none := Option.map_eq_none_iff.mp new
    simp [readValue, readMarker, Field.value, JsonValue.token, take, none, otherNames, String.ofList_toList]
  | unbind =>
    have none := Option.map_eq_none_iff.mp new
    simp [readValue, readUnbind, Field.value, JsonValue.token, take, none, otherNames]

/-- The members are read one after the other; each has its value from then on, and no other changes. -/
theorem readMembers_object (found : Members) {m : String × JsonValue} {members : List (String × JsonValue)}
    (fits : ∀ n ∈ m :: members, IsMember n) (nodup : ((m :: members).map Prod.fst).Nodup)
    (new : ∀ f : Field, f.name ∈ (m :: members).map Prod.fst → found.value? f = none) :
    ∃ last : Members,
      found.readMembers (List.intercalate [.comma] ((m :: members).map memberTokens) ++ [.closeBrace]) = some last ∧
      ∀ f : Field, (∀ v, (f.name, v) ∈ m :: members → last.value? f = some v) ∧
        (f.name ∉ (m :: members).map Prod.fst → last.value? f = found.value? f) := by
  induction members generalizing found m with
  | nil =>
    obtain ⟨s, g, word, rfl⟩ := fits m List.mem_cons_self
    refine ⟨found.take s g, ?_, fun f => ⟨fun v member => ?_, fun other => ?_⟩⟩
    · rw [List.map_singleton, List.intercalate_singleton]
      exact readMembers_last (readValue_take word (new g List.mem_cons_self) [.closeBrace])
    · obtain ⟨names, rfl⟩ := Prod.mk.inj (List.mem_singleton.mp member)
      rw [value?_take, if_pos (Field.name_injective names), Field.name_injective names]
    · rw [value?_take, if_neg]
      rintro rfl
      exact other List.mem_cons_self
  | cons next members ih =>
    obtain ⟨s, g, word, rfl⟩ := fits m List.mem_cons_self
    obtain ⟨apart, nodup⟩ := List.nodup_cons.mp nodup
    obtain ⟨last, read, values⟩ := ih (found.take s g) (fun n member => fits n (List.mem_cons_of_mem _ member))
      nodup (by
        intro f member
        rw [value?_take, if_neg]
        · exact new f (List.mem_cons_of_mem _ member)
        · rintro rfl
          exact apart member)
    refine ⟨last, ?_, fun f => ⟨fun v member => ?_, fun other => ?_⟩⟩
    · rw [← read, List.map_cons, List.map_cons, List.intercalate_cons_cons]
      exact readMembers_more (readValue_take word (new g List.mem_cons_self) _)
    · rcases List.mem_cons.mp member with here | later
      · obtain ⟨names, rfl⟩ := Prod.mk.inj here
        obtain rfl := Field.name_injective names
        rw [(values f).2 apart, value?_take, if_pos rfl]
      · exact (values f).1 v later
    · rw [List.map_cons, List.mem_cons, not_or] at other
      rw [(values f).2 other.2, value?_take, if_neg]
      rintro rfl
      exact other.1 rfl

theorem read?_objectTokens {members : List (String × JsonValue)} (fits : ∀ m ∈ members, IsMember m)
    (nodup : (members.map Prod.fst).Nodup) :
    ∃ found : Members, read? (objectTokens members) = some found ∧
      ∀ f : Field, (∀ v, (f.name, v) ∈ members → found.value? f = some v) ∧
        (f.name ∉ members.map Prod.fst → found.value? f = none) := by
  have nothing : ∀ f : Field, ({} : Members).value? f = none := fun f => by cases f <;> rfl
  cases members with
  | nil => exact ⟨{}, rfl, fun f => ⟨nofun, fun _ => nothing f⟩⟩
  | cons m members =>
    obtain ⟨found, read, values⟩ := readMembers_object {} fits nodup fun f _ => nothing f
    refine ⟨found, ?_, fun f => ⟨(values f).1, fun other => ((values f).2 other).trans (nothing f)⟩⟩
    rw [objectTokens, ← read]
    cases members <;> rfl

end Members

/-- A member may be followed by anything but a number. -/
theorem memberTokens_apart (m : String × JsonValue) {token : Token} {rest : List Token}
    (other : token.isNumber = false) (apart : Token.NumbersApart (token :: rest)) :
    Token.NumbersApart (memberTokens m ++ token :: rest) := by
  have last : Token.NumbersApart (m.2.token :: token :: rest) := List.isChain_cons_cons.mpr ⟨fun _ => other, apart⟩
  exact List.isChain_cons_cons.mpr ⟨nofun, List.isChain_cons_cons.mpr ⟨nofun, last⟩⟩

theorem objectTokens_apart (members : List (String × JsonValue)) : Token.NumbersApart (objectTokens members) := by
  have apart : ∀ m members, Token.NumbersApart
      (List.intercalate [.comma] ((m :: members).map memberTokens) ++ [.closeBrace]) := by
    intro m members
    induction members generalizing m with
    | nil => exact memberTokens_apart m rfl (List.isChain_singleton _)
    | cons next members ih =>
      rw [List.map_cons, List.map_cons, List.intercalate_cons_cons, List.append_assoc, List.append_assoc]
      exact memberTokens_apart m rfl (List.isChain_cons.mpr ⟨nofun, ih next⟩)
  cases members with
  | nil => exact List.isChain_cons_cons.mpr ⟨nofun, List.isChain_singleton _⟩
  | cons m members => exact List.isChain_cons.mpr ⟨nofun, apart m members⟩

/-- A control character has four hexadecimal digits, with zeros in front. -/
theorem fourDigits_padded {n : Nat} (control : n < 0x20) :
    Token.FourDigits
      (List.replicate (4 - ((Radix.hex false).digits n).length) '0' ++ (Radix.hex false).digits n) n := by
  have all : ∀ n < 0x20,
      let digits := (Radix.hex false).digits n
      let padded := List.replicate (4 - digits.length) '0' ++ digits
      padded.length = 4 ∧ padded ⊆ Token.hexLetters ∧ valueOf 16 padded = n := by decide
  obtain ⟨length, letters, value⟩ := all n control
  exact ⟨length, letters, value⟩

/-- A character is written in one of its spellings. -/
theorem jsonChar_spells (c : Char) : Token.Spells c (jsonChar c) := by
  unfold jsonChar
  split_ifs with quote backslash backspace formFeed newline carriageReturn tab control
  case pos | pos | pos | pos | pos | pos | pos =>
    subst c
    exact .short (by decide)
  · exact .unit (fourDigits_padded control)
  · exact .plain quote backslash (Nat.le_of_not_lt control)

theorem jsonString_lexeme (text : List Char) : Token.Lexeme (.string (some text)) (jsonString text) := by
  refine .string ?_
  induction text with
  | nil => exact .nil
  | cons c text ih => exact .cons (jsonChar_spells c) ih

theorem jsonValue_lexeme (v : JsonValue) : Token.Lexeme v.token (jsonValue v) := by
  cases v with
  | number n => exact .number n
  | string text => exact jsonString_lexeme text.toList
  | bool b => exact .bool b

/-- A member is written before anything that follows it. -/
theorem jsonMember_lexed (m : String × JsonValue) {tokens : List Token} {rest : List Char}
    (others : Token.Lexed tokens rest) : Token.Lexed (memberTokens m ++ tokens) (jsonMember m ++ rest) := by
  rw [jsonMember, List.append_assoc, List.cons_append]
  exact .next (jsonString_lexeme _) (.next .colon (.next (jsonValue_lexeme m.2) others))

/-- An object is written without blanks. -/
theorem jsonObject_lexed (members : List (String × JsonValue)) :
    Token.Lexed (objectTokens members) (jsonObject members) := by
  have closed : Token.Lexed [.closeBrace] ['}'] := .next .closeBrace (.nil (List.forall_mem_nil _))
  have row : ∀ m members, Token.Lexed
      (List.intercalate [.comma] ((m :: members).map memberTokens) ++ [.closeBrace])
      (List.intercalate [','] ((m :: members).map jsonMember) ++ ['}']) := by
    intro m members
    induction members generalizing m with
    | nil =>
      rw [List.map_singleton, List.map_singleton, List.intercalate_singleton, List.intercalate_singleton]
      exact jsonMember_lexed m closed
    | cons next members ih =>
      simp only [List.map_cons, List.intercalate_cons_cons, List.append_assoc] at ih ⊢
      exact jsonMember_lexed m (.next .comma (ih next))
  cases members with
  | nil => exact .next .openBrace closed
  | cons m members => exact .next .openBrace (row m members)

end Settings

open Settings (Members)

/-- The plain codec writes and reads standard JSON. -/
theorem JsonCodec.plain_lawful : JsonCodec.plain.Lawful where
  writes s _ := by
    rw [IsObject, plain, String.toList_ofList]
    exact Settings.jsonObject_lexed s.members
  reads := by
    intro default members text object nodup fits
    obtain ⟨found, read, values⟩ := Members.read?_objectTokens fits nodup
    have whole : (Token.tokens? text.toList).bind Members.read? = some found := by
      rw [Token.tokens?_of_lexed object (Settings.objectTokens_apart members), Option.bind_some, read]
    refine ⟨found.settings default, by simp only [plain, whole], fun m member => ?_, fun m member other => ?_⟩
    · obtain ⟨s, f, -, rfl⟩ := fits m member
      refine Settings.mem_members.mpr ⟨f, ?_⟩
      rw [Settings.member, Settings.member, Members.value_settings, (values f).1 _ member, Option.getD_some]
    · obtain ⟨f, rfl⟩ := Settings.mem_members.mp member
      refine Settings.mem_members.mpr ⟨f, ?_⟩
      rw [Settings.member, Settings.member, Members.value_settings, (values f).2 other, Option.getD_none]

namespace Settings

/-- Settings that were written are read back as they were, and so is every object of some of their members in any
order and spelling, with defaults for the others; settings that are not valid are refused with the reason. -/
theorem json_round_trip (codec : JsonCodec) (lawful : codec.Lawful) (s : Settings) (word : s.capacity < wordSize) :
    ReadsAs codec (s.toJson codec) s ∧
    ∀ (fields : List Field) (text : String), fields.Nodup → IsObject (fields.map s.member) text →
      ReadsAs codec text (s.only fields) := by
  refine ⟨?_, fun fields text nodup object => readsAs_of_isObject lawful word nodup object⟩
  have whole := readsAs_of_isObject lawful word (by decide) (lawful.writes s word)
  rwa [only_all] at whole

/-- A marker spelled by a surrogate pair, with digits of both cases, and by a short escape is read; the settings that
it is taken from have no room for messages and are refused as they are written. -/
theorem json_round_trip_surrogates :
    ofJson .plain (toJson .plain { capacity := 0, marker := "😀\"" }) =
      .error (.config "message_capacity must be greater than zero") ∧
    ofJson .plain " \x7b\"truncation_marker\" : \"\\uD83D\\ude00\\\"\" \x7d\n" = .ok { marker := "😀\"" } := by
  have trip := json_round_trip .plain JsonCodec.plain_lawful { capacity := 0, marker := "😀\"" } (by decide)
  refine ⟨trip.1, ?_⟩
  have high : Token.FourDigits "D83D".toList 0xD83D := ⟨by decide, by decide, by decide⟩
  have low : Token.FourDigits "de00".toList 0xDE00 := ⟨by decide, by decide, by decide⟩
  have smile : Token.Spells '😀' ("\\uD83D\\ude00".toList) := .pair high low (by decide) (by decide) (by decide)
  have quote : Token.Spells '"' ['\\', '"'] := .short (by decide)
  have blank : ∀ c ∈ [' '], Token.isSpace c = true := List.forall_mem_singleton.mpr rfl
  have object : IsObject [member { capacity := 0, marker := "😀\"" } .marker]
      " \x7b\"truncation_marker\" : \"\\uD83D\\ude00\\\"\" \x7d\n" :=
    .cons blank .openBrace <| .next (jsonString_lexeme Field.marker.name.toList) <| .cons blank .colon <|
      .cons blank (.string (.cons smile (.cons quote .nil))) <| .cons blank .closeBrace <|
        .nil (List.forall_mem_singleton.mpr rfl)
  exact trip.2 [.marker] _ (by decide) object

end Settings

end MockQueue
