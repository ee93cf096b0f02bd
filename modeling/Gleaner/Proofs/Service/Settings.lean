import Gleaner.Proofs.Text.Natural
import Gleaner.Proofs.Text.Utf8.Decode
import Gleaner.Service.Config

/-! Which environments the service starts in, and with which settings. Each variable has words that it may
say and a value for each of them. The settings are read one after another: all of them are such values, or
the first variable that says something else is named. -/
namespace Gleaner.Environment
open Text

variable {α β : Type} {values : String → Option (List UInt8)}

/-! Variables. -/

/-- The bytes of the variable are this text. -/
def SetTo (values : String → Option (List UInt8)) (name text : String) : Prop :=
  values name = some (Utf8.encode text.toList)

/-- The variable has no bytes, or bytes that are no text. -/
def Unset (values : String → Option (List UInt8)) (name : String) : Prop :=
  ∀ text, ¬SetTo values name text

/-- A variable, and which values its words stand for. -/
structure Variable (α : Type) where
  name : String
  Means : List Char → α → Prop

namespace Variable

/-- A number of a port alone, which is written after all interfaces without a sign or zeros in front. -/
def port : Variable String where
  name := "PORT"
  Means word address := ∃ n digits, Numeral n word ∧ n ≤ 65535 ∧ Canonical n digits ∧
    address = "0.0.0.0:" ++ String.ofList digits

def mode : Variable ModeKind where
  name := "EXTRACT_MODE"
  Means word kind := word.map Char.toLower = kind.name.toList

def requireRecords : Variable Bool where
  name := "EXTRACT_REQUIRE_RECORDS"
  Means word b := word = "true".toList ∧ b = true ∨ word = "false".toList ∧ b = false

def maxUploadBytes : Variable Nat where
  name := "MAX_UPLOAD_BYTES"
  Means word n := Numeral n word ∧ 1 ≤ n ∧ n ≤ 2 ^ 64 - 1

def logFormat : Variable LogFormat where
  name := "LOG_FORMAT"
  Means word format :=
    (word.map Char.toLower = "pretty".toList ∨ word.map Char.toLower = "text".toList) ∧
        format = .pretty ∨
      word.map Char.toLower = "json".toList ∧ format = .json

/-- What a variable stands for, the standard value if it is not set. -/
inductive Gives (v : Variable α) (values : String → Option (List UInt8)) (standard : α) : α → Prop
  | unset (h : Unset values v.name) : Gives v values standard standard
  | set {text : String} {word : List Char} {a : α} (h : SetTo values v.name text)
      (hpadded : Padded word text.toList) (hmeans : v.Means word a) : Gives v values standard a

end Variable

/-- A variable without the values: what it is called and the words that it may say. -/
structure Rule where
  name : String
  Takes : List Char → Prop

def Variable.rule (v : Variable α) : Rule := ⟨v.name, fun word => ∃ a, v.Means word a⟩

/-- The variable is set, and says no word that it may say. -/
def Faulty (values : String → Option (List UInt8)) (r : Rule) : Prop :=
  ∃ text, SetTo values r.name text ∧ ∀ word, Padded word text.toList → ¬r.Takes word

/-- The variables in the order in which they are read. A set address makes the port irrelevant. -/
inductive Consulted (values : String → Option (List UInt8)) : List Rule → Prop
  | bound {address : String} (h : SetTo values "BIND_ADDR" address) :
      Consulted values [Variable.mode.rule, Variable.requireRecords.rule,
        Variable.maxUploadBytes.rule, Variable.logFormat.rule]
  | unbound (h : Unset values "BIND_ADDR") :
      Consulted values [Variable.port.rule, Variable.mode.rule, Variable.requireRecords.rule,
        Variable.maxUploadBytes.rule, Variable.logFormat.rule]

/-- The first faulty one among the rules has this name. -/
def FirstFaulty (values : String → Option (List UInt8)) (rules : List Rule) (name : String) : Prop :=
  ∃ before r after, rules = before ++ r :: after ∧ (∀ s ∈ before, ¬Faulty values s) ∧
    Faulty values r ∧ name = r.name

/-- An address that is set is taken as it is. -/
inductive Address (values : String → Option (List UInt8)) : String → Prop
  | bound {address : String} (h : SetTo values "BIND_ADDR" address) : Address values address
  | unbound {address : String} (h : Unset values "BIND_ADDR")
      (hport : Variable.port.Gives values Config.standard.bindAddress address) :
      Address values address

/-- Each setting is what its variable stands for. -/
structure Configured (values : String → Option (List UInt8)) (c : Config) : Prop where
  bindAddress : Address values c.bindAddress
  mode : Variable.mode.Gives values Config.standard.mode c.mode
  requireRecords :
    Variable.requireRecords.Gives values Config.standard.requireRecords c.requireRecords
  maxUploadBytes :
    Variable.maxUploadBytes.Gives values Config.standard.maxUploadBytes c.maxUploadBytes
  logFormat : Variable.logFormat.Gives values Config.standard.logFormat c.logFormat

/-! What the environment holds of the bytes. -/

theorem ofBytes_eq_some_iff {name text : String} :
    Environment.ofBytes values name = some text ↔ SetTo values name text := by
  simp only [Environment.ofBytes, SetTo, Option.bind_eq_some_iff, Option.map_eq_some_iff,
    Utf8.decode?_eq_some_iff]
  constructor
  · rintro ⟨_, hvalue, s, rfl, rfl⟩
    rwa [String.toList_ofList]
  · exact fun h => ⟨_, h, _, rfl, String.ofList_toList⟩

theorem ofBytes_eq_none_iff {name : String} :
    Environment.ofBytes values name = none ↔ Unset values name := by
  rw [Option.eq_none_iff_forall_ne_some]
  exact forall_congr' fun text => not_congr ofBytes_eq_some_iff

theorem SetTo.unique {name s t : String} (hs : SetTo values name s) (ht : SetTo values name t) : s = t := by
  rw [← ofBytes_eq_some_iff] at hs ht
  exact Option.some.inj (hs.symm.trans ht)

theorem Variable.gives_iff_of_unset {v : Variable α} {standard a : α} (h : Unset values v.name) :
    v.Gives values standard a ↔ a = standard := by
  constructor
  · rintro (_ | ⟨hset, -, -⟩)
    · rfl
    · exact absurd hset (h _)
  · rintro rfl
    exact .unset h

theorem Variable.gives_iff_of_set {v : Variable α} {standard a : α} {text : String}
    (h : SetTo values v.name text) :
    v.Gives values standard a ↔ ∃ word, Padded word text.toList ∧ v.Means word a := by
  constructor
  · rintro (hunset | ⟨hset, hpadded, hmeans⟩)
    · exact absurd h (hunset text)
    · exact ⟨_, h.unique hset ▸ hpadded, hmeans⟩
  · rintro ⟨word, hpadded, hmeans⟩
    exact .set h hpadded hmeans

theorem faulty_iff_of_set {r : Rule} {text : String} (h : SetTo values r.name text) :
    Faulty values r ↔ ∀ word, Padded word text.toList → ¬r.Takes word :=
  ⟨fun ⟨_, hset, hnone⟩ => h.unique hset ▸ hnone, fun hnone => ⟨text, h, hnone⟩⟩

/-! Reading one setting after another. -/

/-- A part of the settings is read: it is as it should be, or the first fault among these rules is
reported. -/
structure Reads (values : String → Option (List UInt8)) (rules : List Rule) (Good : α → Prop)
    (r : Except ConfigError α) : Prop where
  ok_iff : ∀ a, r = .ok a ↔ Good a
  sound : ∀ a, r = .ok a → ∀ s ∈ rules, ¬Faulty values s
  first : ∀ e, r = .error e → FirstFaulty values rules e.name

namespace Reads

variable {rules rules' : List Rule} {Good : α → Prop} {Next : α → β → Prop}
  {r : Except ConfigError α} {f : α → Except ConfigError β}

theorem pure {a : α} : Reads values [] (· = a) (Pure.pure a) where
  ok_iff _ := ⟨fun h => (Except.ok.inj h).symm, fun h => h ▸ rfl⟩
  sound _ _ := nofun
  first := nofun

theorem bind (hr : Reads values rules Good r)
    (hf : ∀ a, Reads values rules' (Next a) (f a)) :
    Reads values (rules ++ rules') (fun b => ∃ a, Good a ∧ Next a b) (r >>= f) := by
  cases r with
  | error e =>
    obtain ⟨before, s, after, rfl, hbefore, hs⟩ := hr.first e rfl
    refine ⟨fun b => ?_, nofun, ?_⟩
    · refine ⟨nofun, ?_⟩
      rintro ⟨a, ha, -⟩
      cases (hr.ok_iff a).2 ha
    · rintro _ ⟨⟩
      exact ⟨before, s, after ++ rules', by simp, hbefore, hs⟩
  | ok a =>
    have hgood : ∀ a', Good a' ↔ a' = a := fun a' => by
      rw [← hr.ok_iff, Except.ok.injEq, eq_comm]
    have hsound := hr.sound a rfl
    refine ⟨fun b => ?_, fun b hb => ?_, fun e he => ?_⟩
    · simp only [hgood, exists_eq_left]
      exact (hf a).ok_iff b
    · exact List.forall_mem_append.2 ⟨hsound, (hf a).sound b hb⟩
    · obtain ⟨before, s, after, rfl, hbefore, hs⟩ := (hf a).first e he
      exact ⟨rules ++ before, s, after, by simp, List.forall_mem_append.2 ⟨hsound, hbefore⟩, hs⟩

theorem congr {Good' : α → Prop} (h : Reads values rules Good r) (hgood : ∀ a, Good a ↔ Good' a) :
    Reads values rules Good' r :=
  ⟨fun a => (h.ok_iff a).trans (hgood a), h.sound, h.first⟩

end Reads

/-! Reading a variable. -/

/-- The values that are read from words without blanks around them are those that the words stand for. -/
structure Variable.ReadBy (v : Variable α) (read : List Char → Except String α) : Prop where
  solid : ∀ word a, v.Means word a → ∀ c ∈ word, isBlank c = false
  ok_iff : ∀ word a, trim word = word → (read word = .ok a ↔ v.Means word a)

namespace Variable.ReadBy

variable {v : Variable α} {read : List Char → Except String α}

theorem padded_iff (h : v.ReadBy read) {text : List Char} {a : α} :
    read (trim text) = .ok a ↔ ∃ word, Padded word text ∧ v.Means word a := by
  rw [h.ok_iff _ _ (trim_of_solid (startsSolid_trim text) (endsSolid_trimEnd _))]
  constructor
  · exact fun hmeans => ⟨trim text, padded_trim text, hmeans⟩
  · rintro ⟨word, hpadded, hmeans⟩
    rwa [hpadded.trim_eq (h.solid word a hmeans)]

/-- Either the variable is not set, or what is read of it decides. -/
theorem setting (h : v.ReadBy read) (values : String → Option (List UInt8)) (standard : α) :
    Reads values [v.rule] (v.Gives values standard)
      (Config.setting (.ofBytes values) v.name standard read) := by
  unfold Config.setting
  cases hvalue : Environment.ofBytes values v.name with
  | none =>
    have hunset : Unset values v.name := ofBytes_eq_none_iff.1 hvalue
    refine ⟨fun a => ?_, ?_, nofun⟩
    · rw [v.gives_iff_of_unset hunset, Except.ok.injEq, eq_comm]
    · rintro _ - s hs ⟨text, hset, -⟩
      rw [List.mem_singleton.1 hs] at hset
      exact hunset text hset
  | some text =>
    have hset : SetTo values v.name text := ofBytes_eq_some_iff.1 hvalue
    have hrule : SetTo values v.rule.name text := hset
    dsimp only [Config.parse]
    cases hread : read (trim text.toList) with
    | ok b =>
      obtain ⟨word, hpadded, hmeans⟩ := h.padded_iff.1 hread
      refine ⟨fun a => ?_, ?_, nofun⟩
      · rw [v.gives_iff_of_set hset, ← h.padded_iff, hread, Except.ok.injEq, Except.ok.injEq]
      · rintro _ - s hs
        rw [List.mem_singleton.1 hs, faulty_iff_of_set hrule]
        exact fun hnone => hnone word hpadded ⟨b, hmeans⟩
    | error reason =>
      refine ⟨fun a => ?_, nofun, ?_⟩
      · rw [v.gives_iff_of_set hset, ← h.padded_iff, hread]
        exact ⟨nofun, nofun⟩
      · rintro _ ⟨⟩
        refine ⟨[], v.rule, [], rfl, by simp, (faulty_iff_of_set hrule).2 ?_, rfl⟩
        rintro word hpadded ⟨a, hmeans⟩
        cases hread.symm.trans (h.padded_iff.2 ⟨word, hpadded, hmeans⟩)

end Variable.ReadBy

/-! The variables of the service. -/

theorem asciiLower_word_eq_iff {word : List Char} {w : String} (hword : trim word = word) :
    asciiLower (String.ofList (trim (String.ofList word).toList)) = w ↔
      word.map Char.toLower = w.toList := by
  rw [String.toList_ofList, hword, asciiLower, String.toList_ofList, ← String.toList_inj,
    String.toList_ofList]

theorem config_natural_eq_ok_iff {max n : Nat} {word : List Char} :
    Config.natural max word = .ok n ↔ Numeral n word ∧ n ≤ max := by
  rw [← natural_eq_ok_iff, Config.natural]
  cases natural max word <;> simp [Except.mapError]

namespace Variable

/-- The address of a port alone. -/
def anywhere (word : List Char) : Except String String :=
  (Config.natural 0xFFFF word).map fun n => "0.0.0.0:" ++ toString n

theorem port_readBy : port.ReadBy anywhere where
  solid := by
    rintro word _ ⟨n, digits, hword, -⟩
    exact hword.solid
  ok_iff word address _ := by
    have hmap : anywhere word = .ok address ↔
        ∃ n, Config.natural 0xFFFF word = .ok n ∧ address = "0.0.0.0:" ++ toString n := by
      rw [anywhere]
      cases Config.natural 0xFFFF word <;> simp [Except.map, eq_comm]
    rw [hmap]
    refine exists_congr fun n => ?_
    simp only [config_natural_eq_ok_iff, canonical_iff, exists_and_left, exists_eq_left,
      String.ofList_toList, and_assoc]

theorem mode_readBy : mode.ReadBy fun word => ModeKind.ofText (String.ofList word) where
  solid word kind h := by
    refine solid_of_map_toLower ?_
    rw [show word.map Char.toLower = kind.name.toList from h]
    cases kind <;> simp [ModeKind.name, isBlank]
  ok_iff word kind hword := by
    have hmeans : mode.Means word kind ↔ _ = kind.name := (asciiLower_word_eq_iff hword).symm
    rw [hmeans, ModeKind.ofText]
    generalize asciiLower _ = w
    split_ifs with hlenient hstrict
    · subst hlenient
      cases kind <;> simp [ModeKind.name]
    · subst hstrict
      cases kind <;> simp [ModeKind.name]
    · cases kind <;> simp [ModeKind.name, hlenient, hstrict]

theorem requireRecords_readBy : requireRecords.ReadBy Config.boolean where
  solid := by
    rintro word _ (⟨rfl, -⟩ | ⟨rfl, -⟩) <;> simp [isBlank]
  ok_iff word b _ := by
    change Config.boolean word = .ok b ↔
      word = ['t', 'r', 'u', 'e'] ∧ b = true ∨ word = ['f', 'a', 'l', 's', 'e'] ∧ b = false
    rw [Config.boolean, boolean?]
    split_ifs with htrue hfalse
    · simp [htrue, eq_comm]
    · simp [hfalse, eq_comm]
    · simp [htrue, hfalse]

/-- The limit that a text says, which must not be zero. -/
def limit (word : List Char) : Except String Nat := do
  let n ← Config.natural 0xFFFFFFFFFFFFFFFF word
  if n = 0 then .error "must be greater than zero" else .ok n

theorem maxUploadBytes_readBy : maxUploadBytes.ReadBy limit where
  solid word n h := h.1.solid
  ok_iff word n _ := by
    have hmap : limit word = .ok n ↔ Config.natural 0xFFFFFFFFFFFFFFFF word = .ok n ∧ n ≠ 0 := by
      rw [limit]
      cases Config.natural 0xFFFFFFFFFFFFFFFF word with
      | error e => simp [bind, Except.bind]
      | ok m =>
        change (if m = 0 then _ else Except.ok m) = _ ↔ _
        split_ifs with hm
        · simp [hm, eq_comm]
        · rw [Except.ok.injEq]
          exact ⟨fun h => ⟨h, h ▸ hm⟩, And.left⟩
    rw [hmap, config_natural_eq_ok_iff, and_assoc, and_comm (b := n ≠ 0), ← Nat.one_le_iff_ne_zero]
    rfl

theorem logFormat_readBy : logFormat.ReadBy fun word => LogFormat.ofText (String.ofList word) where
  solid word format h := by
    refine solid_of_map_toLower ?_
    rcases h with ⟨h | h, -⟩ | ⟨h, -⟩ <;> rw [h] <;> simp [isBlank]
  ok_iff word format hword := by
    have hmeans : logFormat.Means word format ↔ _ :=
      or_congr (and_congr_left' (or_congr (asciiLower_word_eq_iff hword).symm
        (asciiLower_word_eq_iff hword).symm)) (and_congr_left' (asciiLower_word_eq_iff hword).symm)
    rw [hmeans, LogFormat.ofText]
    generalize asciiLower _ = w
    split_ifs with hpretty hjson
    · rcases hpretty with rfl | rfl <;> simp [eq_comm]
    · subst hjson
      simp [eq_comm]
    · simp [hjson, not_or.1 hpretty]

end Variable

/-! The settings as a whole. -/

theorem bindAddressOf_bound {address : String} (h : SetTo values "BIND_ADDR" address) :
    Reads values [] (Address values) (Config.bindAddressOf (.ofBytes values)) := by
  have hread : Config.bindAddressOf (.ofBytes values) = pure address := by
    rw [Config.bindAddressOf, ofBytes_eq_some_iff.2 h]
    rfl
  rw [hread]
  refine Reads.pure.congr fun a => ⟨?_, ?_⟩
  · rintro rfl
    exact .bound h
  · rintro (hset | ⟨hunset, -⟩)
    · exact hset.unique h
    · exact absurd h (hunset address)

theorem bindAddressOf_eq_setting (h : Unset values "BIND_ADDR") :
    Config.bindAddressOf (.ofBytes values) =
      Config.setting (.ofBytes values) "PORT" Config.standard.bindAddress Variable.anywhere := by
  rw [Config.bindAddressOf, Config.setting, ofBytes_eq_none_iff.2 h]
  cases Environment.ofBytes values "PORT" with
  | none => rfl
  | some port =>
    dsimp only [Config.parse, Variable.anywhere]
    cases Config.natural 0xFFFF (trim port.toList) <;> rfl

theorem maxUploadBytesOf_eq (env : Environment) :
    Config.maxUploadBytesOf env =
      Config.setting env "MAX_UPLOAD_BYTES" Config.standard.maxUploadBytes Variable.limit := by
  rw [Config.maxUploadBytesOf, Config.setting, Config.setting]
  cases env "MAX_UPLOAD_BYTES" with
  | none => rfl
  | some text =>
    dsimp only [Config.parse, Variable.limit]
    cases Config.natural 0xFFFFFFFFFFFFFFFF (trim text.toList) with
    | error reason => rfl
    | ok n =>
      dsimp only [bind, Except.bind]
      split_ifs <;> rfl

theorem bindAddressOf_unbound (h : Unset values "BIND_ADDR") :
    Reads values [Variable.port.rule] (Address values) (Config.bindAddressOf (.ofBytes values)) := by
  rw [bindAddressOf_eq_setting h]
  refine (Variable.port_readBy.setting values Config.standard.bindAddress).congr fun a => ⟨?_, ?_⟩
  · exact fun hport => .unbound h hport
  · rintro (hset | ⟨-, hport⟩)
    · exact absurd hset (h a)
    · exact hport

/-- Whatever is read for the address, the other settings are read after it. -/
theorem ofEnvironment_reads {rules : List Rule}
    (h : Reads values rules (Address values) (Config.bindAddressOf (.ofBytes values))) :
    Reads values (rules ++ [Variable.mode.rule, Variable.requireRecords.rule,
      Variable.maxUploadBytes.rule, Variable.logFormat.rule]) (Configured values)
      (Config.ofEnvironment (.ofBytes values)) := by
  have hrest (bindAddress : String) :=
    (Variable.mode_readBy.setting values Config.standard.mode).bind fun mode =>
    (Variable.requireRecords_readBy.setting values Config.standard.requireRecords).bind fun requireRecords =>
    (Variable.maxUploadBytes_readBy.setting values Config.standard.maxUploadBytes).bind fun maxUploadBytes =>
    (Variable.logFormat_readBy.setting values Config.standard.logFormat).bind fun logFormat =>
    Reads.pure (a := Config.mk bindAddress mode requireRecords maxUploadBytes logFormat)
  rw [Config.ofEnvironment, maxUploadBytesOf_eq]
  refine (h.bind hrest).congr fun c => ⟨?_, ?_⟩
  · rintro ⟨_, hbind, _, hmode, _, hrecords, _, hlimit, _, hformat, rfl⟩
    exact ⟨hbind, hmode, hrecords, hlimit, hformat⟩
  · rintro ⟨hbind, hmode, hrecords, hlimit, hformat⟩
    exact ⟨_, hbind, _, hmode, _, hrecords, _, hlimit, _, hformat, rfl⟩

theorem consulted_reads {rules : List Rule} (h : Consulted values rules) :
    Reads values rules (Configured values) (Config.ofEnvironment (.ofBytes values)) := by
  cases h with
  | bound h => exact ofEnvironment_reads (bindAddressOf_bound h)
  | unbound h => exact ofEnvironment_reads (bindAddressOf_unbound h)

theorem exists_consulted (values : String → Option (List UInt8)) :
    ∃ rules, Consulted values rules := by
  by_cases h : Unset values "BIND_ADDR"
  · exact ⟨_, .unbound h⟩
  · obtain ⟨address, h⟩ := not_forall_not.1 h
    exact ⟨_, .bound h⟩

theorem Reads.exists_ok_iff {rules : List Rule} {Good : α → Prop} {r : Except ConfigError α}
    (h : Reads values rules Good r) : (∃ a, r = .ok a) ↔ ∀ s ∈ rules, ¬Faulty values s := by
  constructor
  · rintro ⟨a, ha⟩
    exact h.sound a ha
  · intro hnone
    cases r with
    | ok a => exact ⟨a, rfl⟩
    | error e =>
      obtain ⟨before, s, after, rfl, -, hs, -⟩ := h.first e rfl
      exact absurd hs (hnone s (by simp))

/-- The limit is positive if it is set, and the standard one is. -/
theorem Configured.maxUploadBytes_pos {c : Config} (h : Configured values c) : 0 < c.maxUploadBytes := by
  have hlimit := h.maxUploadBytes
  by_cases hunset : Unset values Variable.maxUploadBytes.name
  · rw [Variable.gives_iff_of_unset hunset] at hlimit
    rw [hlimit]
    decide
  · obtain ⟨text, hset⟩ := not_forall_not.1 hunset
    obtain ⟨word, -, -, hpos, -⟩ := (Variable.gives_iff_of_set hset).1 hlimit
    exact hpos

/-- Where an address is set, the port is looked at and left aside. -/
theorem ofEnvironment_of_bound {env env' : Environment} {address : String}
    (h : env "BIND_ADDR" = some address) (hsame : ∀ name, name ≠ "PORT" → env' name = env name) :
    Config.ofEnvironment env' = Config.ofEnvironment env := by
  have hbind : Config.bindAddressOf env' = Config.bindAddressOf env := by
    simp only [Config.bindAddressOf, hsame "BIND_ADDR" (by decide), h]
  have hsetting {α : Type} (name : String) (hname : name ≠ "PORT") (standard : α)
      (read : List Char → Except String α) :
      Config.setting env' name standard read = Config.setting env name standard read := by
    rw [Config.setting, hsame name hname, ← Config.setting]
  rw [Config.ofEnvironment, Config.ofEnvironment, hbind, maxUploadBytesOf_eq, maxUploadBytesOf_eq,
    hsetting "EXTRACT_MODE" (by decide), hsetting "EXTRACT_REQUIRE_RECORDS" (by decide),
    hsetting "MAX_UPLOAD_BYTES" (by decide), hsetting "LOG_FORMAT" (by decide)]

/-- The service starts exactly if every variable that matters says something it may say, and then each setting
is what its variable stands for. Otherwise the first variable that does not is named. -/
theorem settings_read (values : String → Option (List UInt8)) :
    (∀ c, Config.ofEnvironment (.ofBytes values) = .ok c ↔ Configured values c) ∧
    (∀ rules, Consulted values rules →
      ((∃ c, Config.ofEnvironment (.ofBytes values) = .ok c) ↔ ∀ r ∈ rules, ¬Faulty values r) ∧
      ∀ e, Config.ofEnvironment (.ofBytes values) = .error e → FirstFaulty values rules e.name) ∧
    (∀ c, Config.ofEnvironment (.ofBytes values) = .ok c → 0 < c.maxUploadBytes) ∧
    ∀ address other, SetTo values "BIND_ADDR" address →
      (∀ name, name ≠ "PORT" → other name = values name) →
      Config.ofEnvironment (.ofBytes other) = Config.ofEnvironment (.ofBytes values) := by
  obtain ⟨rules, hrules⟩ := exists_consulted values
  refine ⟨(consulted_reads hrules).ok_iff, ?_, ?_, ?_⟩
  · intro rules hrules
    exact ⟨(consulted_reads hrules).exists_ok_iff, (consulted_reads hrules).first⟩
  · intro c hc
    exact (((consulted_reads hrules).ok_iff c).1 hc).maxUploadBytes_pos
  · intro address other hset hother
    refine ofEnvironment_of_bound (ofBytes_eq_some_iff.2 hset) fun name hname => ?_
    rw [Environment.ofBytes, hother name hname, ← Environment.ofBytes]

/-- Bytes that are no address, a port, a mode, a limit of zero and no format. -/
def misconfigured : String → Option (List UInt8)
  | "BIND_ADDR" => some [0xFF]
  | "PORT" => some (Utf8.encode " +0080".toList)
  | "EXTRACT_MODE" => some (Utf8.encode "STRICT\n".toList)
  | "MAX_UPLOAD_BYTES" => some (Utf8.encode "00".toList)
  | "LOG_FORMAT" => some (Utf8.encode "xml".toList)
  | _ => none

/-- An address, and a port that would not be accepted alone. -/
def boundWith (port : String) : String → Option (List UInt8)
  | "BIND_ADDR" => some (Utf8.encode "[::1]:80".toList)
  | "PORT" => some (Utf8.encode port.toList)
  | _ => none

/-- The limit is named, not the format behind it; no port matters to an address. -/
theorem settings_read_misconfigured :
    (∀ c, Config.ofEnvironment (.ofBytes misconfigured) = .ok c ↔ Configured misconfigured c) ∧
    (∃ rules, Consulted misconfigured rules ∧ FirstFaulty misconfigured rules "MAX_UPLOAD_BYTES") ∧
    0 < (Config.mk "[::1]:80" .lenient true 10485760 .pretty).maxUploadBytes ∧
    Config.ofEnvironment (.ofBytes (boundWith "-1")) = Config.ofEnvironment (.ofBytes (boundWith "80")) := by
  have hunset : Unset misconfigured "BIND_ADDR" := ofBytes_eq_none_iff.1 (by decide +kernel)
  have herror : Config.ofEnvironment (.ofBytes misconfigured) =
      .error ⟨"MAX_UPLOAD_BYTES", "must be greater than zero"⟩ := by rfl
  have hok : Config.ofEnvironment (.ofBytes (boundWith "80")) =
      .ok ⟨"[::1]:80", .lenient, true, 10485760, .pretty⟩ := by rfl
  refine ⟨(settings_read misconfigured).1, ⟨_, .unbound hunset, ?_⟩, ?_, ?_⟩
  · exact ((settings_read misconfigured).2.1 _ (.unbound hunset)).2 _ herror
  · exact (settings_read (boundWith "80")).2.2.1 _ hok
  · refine (settings_read (boundWith "80")).2.2.2 "[::1]:80" (boundWith "-1") rfl ?_
    intro name hname
    unfold boundWith
    split <;> simp_all

end Gleaner.Environment
