import Onboarding.Proofs.Bases

/-! Settings. An environment gives each field of the configuration by one variable, or else by its default;
bytes that encode no text give as little as no bytes. Validation is settled by the base and the filter, the
base first, and what is stored of a configuration is read back. -/
namespace Onboarding

/-- Bytes are the text that they encode, or none. -/
theorem fromUTF8?_eq_some_iff {bytes : ByteArray} {text : String} :
    String.fromUTF8? bytes = some text ↔ bytes = text.toUTF8 := by
  constructor
  · intro decoded
    unfold String.fromUTF8? at decoded
    split at decoded
    next valid =>
      rw [← Option.some.inj decoded]
      rfl
    next => contradiction
  · rintro rfl
    have valid : text.toUTF8.IsValidUTF8 := text.isValidUTF8
    rw [String.fromUTF8?, dif_pos valid]
    rfl

theorem toList_loop (bytes : ByteArray) (i : Nat) (done : List UInt8) :
    ByteArray.toList.loop bytes i done = done.reverse ++ bytes.data.toList.drop i := by
  induction i, done using ByteArray.toList.loop.induct bytes with
  | case1 i done inside ih =>
    have next : bytes.data.toList.drop i = bytes.get! i :: bytes.data.toList.drop (i + 1) := by
      rw [List.drop_eq_getElem_cons (by simpa using inside)]
      simp [ByteArray.get!, inside]
    rw [ByteArray.toList.loop, if_pos inside, ih, next]
    simp
  | case2 i done outside =>
    rw [ByteArray.toList.loop, if_neg outside, List.drop_of_length_le (by simpa using outside),
      List.append_nil]

theorem toList_toUTF8 (text : String) :
    text.toUTF8.toList = text.toList.flatMap String.utf8EncodeChar := by
  have encoded : text.toUTF8 = (text.toList.flatMap String.utf8EncodeChar).toByteArray := by
    rw [← List.utf8Encode, ← String.toByteArray_ofList, String.ofList_toList]
    rfl
  rw [ByteArray.toList, toList_loop, encoded, List.toList_data_toByteArray]
  rfl

/-- Only the zero character has the zero byte in its encoding. -/
theorem zero_not_mem_utf8EncodeChar {c : Char} (h : c ≠ '\x00') : 0 ∉ String.utf8EncodeChar c := by
  have positive : 0 < c.val.toNat := by
    apply Nat.pos_of_ne_zero
    intro zero
    exact h (Char.ext (UInt32.toNat_inj.mp zero))
  have byte (n : Nat) (zero : 0 = UInt8.ofNat n) : n % 256 = 0 := by
    simpa using (congrArg UInt8.toNat zero).symm
  -- The bytes of longer encodings are marked in their upper bits, so only a single byte can be small.
  intro member
  simp only [String.utf8EncodeChar] at member
  repeat' split at member
  all_goals simp only [List.mem_cons, List.not_mem_nil, or_false] at member
  · have small := byte _ member
    omega
  · rcases member with zero | zero <;> have := byte _ zero <;> omega
  · rcases member with zero | zero | zero <;> have := byte _ zero <;> omega
  · rcases member with zero | zero | zero | zero <;> have := byte _ zero <;> omega

theorem zero_not_mem_toUTF8 {text : String} (free : '\x00' ∉ text.toList) : 0 ∉ text.toUTF8.toList := by
  rw [toList_toUTF8, List.mem_flatMap]
  rintro ⟨c, member, zero⟩
  refine zero_not_mem_utf8EncodeChar ?_ zero
  rintro rfl
  exact free member

namespace Environment

/-- The value of a variable is the encoding of a text. -/
def Holds (env : Environment) (name text : String) : Prop := env.value name = some text.toUTF8

/-- A variable is missing: it is not set, or its value encodes no text. -/
def Lacks (env : Environment) (name : String) : Prop := ∀ text, ¬env.Holds name text

section

variable {env : Environment} {name : String} (named : isName name)
include named

theorem text?_eq_some_iff {text : String} : env.text? name = some text ↔ env.Holds name text := by
  rw [text?, if_pos named, Option.bind_eq_some_iff]
  simp only [fromUTF8?_eq_some_iff, Holds]
  constructor
  · rintro ⟨bytes, given, rfl⟩
    exact given
  · intro given
    exact ⟨_, given, rfl⟩

theorem text?_eq_none_iff : env.text? name = none ↔ env.Lacks name := by
  rw [Option.eq_none_iff_forall_ne_some]
  exact forall_congr' fun text => not_congr (text?_eq_some_iff named)

theorem getOr_of_holds {text : String} (held : env.Holds name text) (standard : String) :
    env.getOr name standard = text := by
  rw [getOr, (text?_eq_some_iff named).mpr held, Option.getD_some]

theorem getOr_of_lacks (lacking : env.Lacks name) (standard : String) :
    env.getOr name standard = standard := by
  rw [getOr, (text?_eq_none_iff named).mpr lacking, Option.getD_none]

theorem getFlag_of_holds {text : String} (held : env.Holds name text) (standard : Bool) :
    env.getFlag name standard = isOn text := by
  rw [getFlag, (text?_eq_some_iff named).mpr held]

theorem getFlag_of_lacks (lacking : env.Lacks name) (standard : Bool) :
    env.getFlag name standard = standard := by
  rw [getFlag, (text?_eq_none_iff named).mpr lacking]

/-- What holds of the default holds of the text that is read unless the variable holds a text without it. -/
theorem getOr_iff {P : String → Prop} {standard : String} (fallback : P standard) :
    P (env.getOr name standard) ↔ env.Lacks name ∨ ∃ text, env.Holds name text ∧ P text := by
  cases given : env.text? name with
  | none =>
    have lacking := (text?_eq_none_iff named).mp given
    exact iff_of_true (by rwa [getOr_of_lacks named lacking]) (.inl lacking)
  | some text =>
    have held := (text?_eq_some_iff named).mp given
    rw [getOr_of_holds named held]
    constructor
    · intro fits
      exact .inr ⟨text, held, fits⟩
    · rintro (lacking | ⟨other, also, fits⟩)
      · exact absurd held (lacking text)
      · have same : env.getOr name standard = other := getOr_of_holds named also standard
        rwa [← getOr_of_holds named held standard, same]

end

theorem text?_congr {a b : Environment} {name : String} (same : a.value name = b.value name) :
    a.text? name = b.text? name := by
  rw [text?, text?, same]

/-- A switch is on when it is a one with nothing but blanks around it. -/
theorem isOn_iff {text : String} :
    isOn text = true ↔ ∃ before after : String, (∀ c ∈ before.toList, Text.isBlank c) ∧
      (∀ c ∈ after.toList, Text.isBlank c) ∧ text = before ++ "1" ++ after := by
  have shown : Text.isBlank '1' = false := by decide
  rw [isOn, decide_eq_true_iff, Text.trim_eq_singleton_iff shown]
  constructor
  · rintro ⟨before, after, left, right, parts⟩
    refine ⟨String.ofList before, String.ofList after, by simpa using left, by simpa using right, ?_⟩
    apply String.ext
    simp [parts]
  · rintro ⟨before, after, left, right, rfl⟩
    exact ⟨before.toList, after.toList, left, right, by simp⟩

def storeAll (env : Environment) : List (String × String) → Except Impossible Environment
  | [] => .ok env
  | (name, text) :: entries =>
    match env.store name text.toUTF8 with
    | .error change => .error change
    | .ok env => storeAll env entries

/-- Texts that an environment can hold are all set, and other variables are as they were. -/
theorem storeAll_eq_ok (env : Environment) {entries : List (String × String)}
    (named : ∀ entry ∈ entries, isName entry.1) (free : ∀ entry ∈ entries, '\x00' ∉ entry.2.toList)
    (apart : (entries.map Prod.fst).Nodup) :
    ∃ written, env.storeAll entries = .ok written ∧
      (∀ entry ∈ entries, written.Holds entry.1 entry.2) ∧
      ∀ name ∉ entries.map Prod.fst, written.value name = env.value name := by
  induction entries generalizing env with
  | nil => exact ⟨env, rfl, by simp, fun _ _ => rfl⟩
  | cons entry entries ih =>
    obtain ⟨name, text⟩ := entry
    obtain ⟨first, named⟩ := List.forall_mem_cons.mp named
    obtain ⟨clean, free⟩ := List.forall_mem_cons.mp free
    obtain ⟨fresh, apart⟩ := List.nodup_cons.mp apart
    obtain ⟨written, stored, held, kept⟩ := ih (env.set name text.toUTF8) named free apart
    refine ⟨written, ?_, List.forall_mem_cons.mpr ⟨?_, held⟩, fun other absent => ?_⟩
    · rw [storeAll, store_eq_ok env first (zero_not_mem_toUTF8 clean)]
      exact stored
    · rw [Holds, kept name fresh, value_set_self]
    · obtain ⟨different, absent⟩ := not_or.mp (mt List.mem_cons.mpr absent)
      rw [kept other absent, value_set_of_ne env different]

end Environment

namespace Config

section

variable {a b : Environment}

theorem routerBase_ofEnvironment (base : a.value baseVariable = b.value baseVariable) :
    (ofEnvironment a).routerBase = (ofEnvironment b).routerBase := by
  simp only [ofEnvironment, Environment.getOr, Environment.text?_congr base]

theorem logLevel_congr (filter : a.value filterVariable = b.value filterVariable) :
    (ofEnvironment a).logLevel = (ofEnvironment b).logLevel := by
  simp only [ofEnvironment, Environment.getOr, Environment.text?_congr filter]

theorem logJson_congr (json : a.value jsonVariable = b.value jsonVariable) :
    (ofEnvironment a).logJson = (ofEnvironment b).logJson := by
  simp only [ofEnvironment, Environment.getFlag, Environment.text?_congr json]

/-- The format of the log counts for nothing. -/
theorem validate_congr_variables (base : a.value baseVariable = b.value baseVariable)
    (filter : a.value filterVariable = b.value filterVariable) :
    (ofEnvironment a).validate = (ofEnvironment b).validate := by
  rw [validate, validate, routerBase_ofEnvironment base, logLevel_congr filter]

end

theorem isName_baseVariable : Environment.isName baseVariable := by decide

theorem isName_filterVariable : Environment.isName filterVariable := by decide

theorem isName_jsonVariable : Environment.isName jsonVariable := by decide

theorem trim_ne_nil_iff {text : String} :
    Text.trim text.toList ≠ [] ↔ ∃ c ∈ text.toList, ¬Text.isBlank c := by
  rw [Ne, Text.trim_eq_nil_iff]
  simp

/-- Validation asks for a location and for a filter that shows something, of the variables that are set. -/
theorem validate_ofEnvironment_iff (env : Environment) :
    (ofEnvironment env).validate = .ok () ↔
      (env.Lacks baseVariable ∨ ∃ base, env.Holds baseVariable base ∧ History.IsLocation base) ∧
      (env.Lacks filterVariable ∨
        ∃ text, env.Holds filterVariable text ∧ ∃ c ∈ text.toList, ¬Text.isBlank c) := by
  rw [validate_eq_ok_iff, trim_ne_nil_iff]
  have filter : ∃ c ∈ defaultFilter.toList, ¬Text.isBlank c := ⟨'s', by decide, by decide⟩
  exact and_congr (Environment.getOr_iff isName_baseVariable (.inl rfl))
    (Environment.getOr_iff (P := fun text => ∃ c ∈ text.toList, ¬Text.isBlank c)
      isName_filterVariable filter)

/-- A base that is no location is at fault before the filter is looked at. -/
theorem validate_of_not_isLocation {config : Config} (bad : ¬History.IsLocation config.routerBase) :
    config.validate = .error (if Path.IsAbsolute config.routerBase then
      .emptySegmentInBase config.routerBase else .relativeBase config.routerBase) := by
  have faulty := mt baseFault?_eq_none_iff.mp bad
  rw [validate]
  unfold baseFault? at faulty ⊢
  by_cases absolute : Path.IsAbsolute config.routerBase
  · simp only [absolute, not_true_eq_false, if_false, if_true] at faulty ⊢
    split at faulty
    next broken => simp only [if_pos broken]
    next => contradiction
  · simp only [absolute, not_false_eq_true, if_true, if_false]

/-- The variables of a configuration and their texts, with the given texts around the switch. -/
def entries (config : Config) (before after : String) : List (String × String) :=
  [(baseVariable, config.routerBase), (filterVariable, config.logLevel),
    (jsonVariable, before ++ (if config.logJson then "1" else "0") ++ after)]

/-- With blanks around it a switch says what it says without. -/
theorem isOn_around (on : Bool) {before after : String} (left : ∀ c ∈ before.toList, Text.isBlank c)
    (right : ∀ c ∈ after.toList, Text.isBlank c) :
    Environment.isOn (before ++ (if on then "1" else "0") ++ after) = on := by
  have parts : (before ++ (if on then "1" else "0") ++ after).toList =
      before.toList ++ (if on then '1' else '0') :: after.toList := by cases on <;> simp
  have shown : Text.isBlank (if on then '1' else '0') = false := by cases on <;> decide
  rw [Environment.isOn, parts, Text.trim_around left right shown]
  cases on <;> rfl

section

variable {config : Config} {before after : String} (left : ∀ c ∈ before.toList, Text.isBlank c)
  (right : ∀ c ∈ after.toList, Text.isBlank c)
include left right

theorem ofEnvironment_of_holds {env : Environment}
    (held : ∀ entry ∈ config.entries before after, env.Holds entry.1 entry.2) :
    ofEnvironment env = config := by
  obtain ⟨base, filter, json⟩ : env.Holds baseVariable config.routerBase ∧
      env.Holds filterVariable config.logLevel ∧
      env.Holds jsonVariable (before ++ (if config.logJson then "1" else "0") ++ after) := by
    simpa [entries] using held
  rw [ofEnvironment, Environment.getOr_of_holds isName_baseVariable base,
    Environment.getOr_of_holds isName_filterVariable filter,
    Environment.getFlag_of_holds isName_jsonVariable json, isOn_around _ left right]

/-- Whatever the order is in which its variables are set, a configuration is read back. -/
theorem exists_storeAll_entries (env : Environment) (base : '\x00' ∉ config.routerBase.toList)
    (filter : '\x00' ∉ config.logLevel.toList) {settings : List (String × String)}
    (order : settings.Perm (config.entries before after)) :
    ∃ written, env.storeAll settings = .ok written ∧ ofEnvironment written = config := by
  have unended (text : String) (blank : ∀ c ∈ text.toList, Text.isBlank c) : '\x00' ∉ text.toList :=
    fun zero => absurd (blank _ zero) (by decide)
  have named : ∀ entry ∈ config.entries before after, Environment.isName entry.1 := by
    simp [entries, isName_baseVariable, isName_filterVariable, isName_jsonVariable]
  have free : ∀ entry ∈ config.entries before after, '\x00' ∉ entry.2.toList := by
    have switch : '\x00' ∉ (if config.logJson then "1" else "0").toList := by
      cases config.logJson <;> decide
    simp [entries, base, filter, unended before left, unended after right, switch]
  have apart : ((config.entries before after).map Prod.fst).Nodup := by
    show [baseVariable, filterVariable, jsonVariable].Nodup
    decide
  obtain ⟨written, stored, held, _⟩ := env.storeAll_eq_ok
    (fun entry member => named entry (order.subset member))
    (fun entry member => free entry (order.subset member)) ((order.map Prod.fst).nodup_iff.mpr apart)
  exact ⟨written, stored,
    ofEnvironment_of_holds left right fun entry member => held entry (order.symm.subset member)⟩

end

/-- The configuration that an environment gives: each field is what its own variable says, and that alone;
which configurations are valid, and which fault goes first; and that a configuration which is stored is read
back. -/
theorem ofEnvironment_field_by_field :
    (∀ a b : Environment,
      (a.value baseVariable = b.value baseVariable →
        (ofEnvironment a).routerBase = (ofEnvironment b).routerBase) ∧
      (a.value filterVariable = b.value filterVariable →
        (ofEnvironment a).logLevel = (ofEnvironment b).logLevel) ∧
      (a.value jsonVariable = b.value jsonVariable →
        (ofEnvironment a).logJson = (ofEnvironment b).logJson) ∧
      (a.value baseVariable = b.value baseVariable → a.value filterVariable = b.value filterVariable →
        (ofEnvironment a).validate = (ofEnvironment b).validate)) ∧
    (∀ env : Environment,
      (env.Lacks baseVariable → (ofEnvironment env).routerBase = default.routerBase) ∧
      (env.Lacks filterVariable → (ofEnvironment env).logLevel = default.logLevel) ∧
      (env.Lacks jsonVariable → (ofEnvironment env).logJson = default.logJson) ∧
      (∀ text, env.Holds baseVariable text → (ofEnvironment env).routerBase = text) ∧
      (∀ text, env.Holds filterVariable text → (ofEnvironment env).logLevel = text) ∧
      (∀ text, env.Holds jsonVariable text →
        ((ofEnvironment env).logJson = true ↔ ∃ before after : String,
          (∀ c ∈ before.toList, Text.isBlank c) ∧ (∀ c ∈ after.toList, Text.isBlank c) ∧
            text = before ++ "1" ++ after))) ∧
    (∀ env : Environment,
      ((ofEnvironment env).validate = .ok () ↔
        (env.Lacks baseVariable ∨ ∃ base, env.Holds baseVariable base ∧
          (base = "/" ∨ ∃ segments, Path.split base = .ok segments)) ∧
        (env.Lacks filterVariable ∨
          ∃ text, env.Holds filterVariable text ∧ ∃ c ∈ text.toList, ¬Text.isBlank c)) ∧
      (∀ base, env.Holds baseVariable base → base ≠ "/" → (∀ segments, Path.split base ≠ .ok segments) →
        (ofEnvironment env).validate = .error
          (if Path.IsAbsolute base then .emptySegmentInBase base else .relativeBase base))) ∧
    (∀ (config : Config) (before after : String) (env : Environment) (settings : List (String × String)),
      (∀ c ∈ before.toList, Text.isBlank c) → (∀ c ∈ after.toList, Text.isBlank c) →
      '\x00' ∉ config.routerBase.toList → '\x00' ∉ config.logLevel.toList →
      settings.Perm (config.entries before after) →
        ∃ written, env.storeAll settings = .ok written ∧ ofEnvironment written = config) := by
  refine ⟨fun a b => ⟨routerBase_ofEnvironment, logLevel_congr, logJson_congr, validate_congr_variables⟩,
    fun env => ⟨?_, ?_, ?_, ?_, ?_, ?_⟩, fun env => ⟨validate_ofEnvironment_iff env, ?_⟩, ?_⟩
  · exact fun lacking => Environment.getOr_of_lacks isName_baseVariable lacking _
  · exact fun lacking => Environment.getOr_of_lacks isName_filterVariable lacking _
  · exact fun lacking => Environment.getFlag_of_lacks isName_jsonVariable lacking _
  · exact fun text held => Environment.getOr_of_holds isName_baseVariable held _
  · exact fun text held => Environment.getOr_of_holds isName_filterVariable held _
  · intro text held
    rw [ofEnvironment, Environment.getFlag_of_holds isName_jsonVariable held]
    exact Environment.isOn_iff
  · intro base held below refused
    have read : (ofEnvironment env).routerBase = base :=
      Environment.getOr_of_holds isName_baseVariable held _
    have bad : ¬History.IsLocation (ofEnvironment env).routerBase := by
      rw [read]
      rintro (top | ⟨segments, found⟩)
      · exact below top
      · exact refused segments found
    rw [validate_of_not_isLocation bad, read]
  · exact fun config before after env settings left right base filter order =>
      exists_storeAll_entries left right env base filter order

/-- A filter that is no text counts as missing, a base that is no location is reported, and settings that
are stored backwards are read back. -/
theorem ofEnvironment_field_by_field_setup :
    let env := (Environment.ofList [(baseVariable, "/setup/"), (jsonVariable, " 1\t")]).set
      filterVariable ⟨#[0xff]⟩
    (ofEnvironment env).logLevel = defaultFilter ∧ (ofEnvironment env).logJson = true ∧
    (ofEnvironment env).validate = .error (.emptySegmentInBase "/setup/") ∧
    (ofEnvironment (env.unset jsonVariable)).validate = (ofEnvironment env).validate ∧
    ∃ written, env.storeAll [(jsonVariable, "\u3000" ++ "1" ++ "\n"), (filterVariable, "warn"),
        (baseVariable, "/é")] = .ok written ∧
      ofEnvironment written = ⟨"/é", "warn", true⟩ := by
  intro env
  obtain ⟨alone, read, valid, back⟩ := ofEnvironment_field_by_field
  obtain ⟨_, standard, _, _, _, switch⟩ := read env
  have unread : env.Lacks filterVariable :=
    (Environment.text?_eq_none_iff isName_filterVariable).mp (by decide +kernel)
  have blank (text : String) (all : text.toList.all Text.isBlank = true) :
      ∀ c ∈ text.toList, Text.isBlank c := List.all_eq_true.mp all
  refine ⟨standard unread,
    (switch " 1\t" rfl).mpr ⟨" ", "\t", blank " " (by decide), blank "\t" (by decide), rfl⟩, ?_, ?_, ?_⟩
  · refine (valid env).2 "/setup/" rfl (by decide) fun segments found => ?_
    contradiction
  · exact (alone _ env).2.2.2 rfl rfl
  · exact back ⟨"/é", "warn", true⟩ "\u3000" "\n" env _ (blank "\u3000" (by decide))
      (blank "\n" (by decide)) (by decide) (by decide)
      (List.reverse_perm (entries ⟨"/é", "warn", true⟩ "\u3000" "\n"))

end Config

end Onboarding
