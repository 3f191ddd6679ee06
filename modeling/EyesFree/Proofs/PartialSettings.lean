import EyesFree.Proofs.Acceptance
import EyesFree.Proofs.ReadBack
import EyesFree.Proofs.SavedSettings

namespace EyesFree

/-! Settings files that give only some of the settings, in any order and with anything else
between them. A setting that is given is read, and every other one has its default. -/

/-! ## Objects that give some fields -/

namespace Json

/-- What may be written for a value: a text with its characters beyond the first plane as
they are or as two surrogates, and anything else in the one way there is. -/
inductive Gives : Json → Json → Prop
  | same (value : Json) : Gives value value
  | text {units : List TextUnit} {text : String} (spelled : TextUnit.toString? units = some text) :
      Gives (.string units) (ofString text)

structure GivesField (field : String × Json) (member : List TextUnit × Json) : Prop where
  named : TextUnit.toString? member.1 = some field.1
  gives : member.2.Gives field.2

/-- The object gives those of the fields that are named, in any order, and other
members between them. -/
inductive GivesFields (fields : List (String × Json)) (names : List String) : Json → Prop
  | object {members given others : List (List TextUnit × Json)}
      (order : members.Perm (given ++ others))
      (known : List.Forall₂ GivesField (fields.filter (·.1 ∈ names)) given)
      (unknown : ∀ other ∈ others, ∃ name, TextUnit.toString? other.1 = some name ∧
        name ∉ fields.map (·.1)) :
      GivesFields fields names (.object members)

inductive Found (names : List String) (field : String × Json) : Option Json → Prop
  | given {written : Json} (named : field.1 ∈ names) (gives : written.Gives field.2) :
      Found names field (some written)
  | missing (unnamed : field.1 ∉ names) : Found names field none

def named (member : List TextUnit × Json) : String × Json :=
  ((TextUnit.toString? member.1).getD "", member.2)

variable {fields : List (String × Json)} {names : List String}
  {members given others : List (List TextUnit × Json)}

private theorem mapM_named (readable : ∀ member ∈ members, (TextUnit.toString? member.1).isSome) :
    members.mapM (fun (name, value) => do return (← TextUnit.toString? name, value)) =
      some (members.map named) := by
  have read := @mapM_map_eq_some _ _ _
    (fun (name, value) => do return (← TextUnit.toString? name, value)) id named members
  rw [List.map_id] at read
  refine read fun member inside => ?_
  obtain ⟨text, same⟩ := Option.isSome_iff_exists.mp (readable member inside)
  simp [named, same]

/-- Of the members, those under the name of a field are the one that
gives it, if it is given. -/
theorem found_of_filter (distinct : (fields.map (·.1)).Nodup)
    (known : List.Forall₂ GivesField (fields.filter (·.1 ∈ names)) given)
    {field : String × Json} (inside : field ∈ fields) :
    ((given.map named).filter (·.1 = field.1) = [] ∧ Found names field none) ∨
      ∃ member, (given.map named).filter (·.1 = field.1) = [member] ∧
        Found names field (some member.2) := by
  have listed : (given.map named).map (·.1) = (fields.filter (·.1 ∈ names)).map (·.1) := by
    rw [eq_comm, ← List.forall₂_eq_eq_eq, List.forall₂_map_left_iff, List.forall₂_map_right_iff,
      List.forall₂_map_right_iff]
    exact known.imp fun field member same => by simp [named, same.named]
  by_cases asked : field.1 ∈ names
  · have kept : field ∈ fields.filter (·.1 ∈ names) :=
      List.mem_filter.mpr ⟨inside, decide_eq_true asked⟩
    obtain ⟨member, found, ⟨same, gives⟩⟩ := exists_of_forall₂ known kept
    have once : ((given.map named).map (·.1)).Nodup :=
      listed ▸ distinct.sublist (List.filter_sublist.map _)
    have name : (named member).1 = field.1 := by simp [named, same]
    refine .inr ⟨named member, ?_, .given asked gives⟩
    rw [← name]
    exact filter_name once (List.mem_map_of_mem found)
  · refine .inl ⟨List.filter_eq_nil_iff.mpr fun member found same => asked ?_, .missing asked⟩
    have name : member.1 ∈ (fields.filter (·.1 ∈ names)).map (·.1) :=
      listed ▸ List.mem_map_of_mem found
    obtain ⟨other, kept, sameName⟩ := List.mem_map.mp name
    rw [← of_decide_eq_true same, ← sameName]
    exact of_decide_eq_true (List.mem_filter.mp kept).2

private theorem GivesFields.exists_found {json : Json} (gives : GivesFields fields names json)
    (distinct : (fields.map (·.1)).Nodup) :
    ∃ found, json.optionalFields? (fields.map (·.1)) = some found ∧
      List.Forall₂ (Found names) fields found := by
  obtain @⟨members, given, others, order, known, unknown⟩ := gives
  have readable : ∀ member ∈ members, (TextUnit.toString? member.1).isSome := by
    intro member inside
    rcases List.mem_append.mp (order.mem_iff.mp inside) with inside | inside
    · obtain ⟨field, _, ⟨same, _⟩⟩ := exists_of_forall₂ known.flip inside
      simp [same]
    · obtain ⟨name, same, _⟩ := unknown member inside
      simp [same]
  rw [optionalFields?, membersNamed?, mapM_named readable]
  simp only [bind, Option.bind_some, List.mapM_map]
  refine exists_mapM fun field inside => ?_
  have fresh : (others.map named).filter (·.1 = field.1) = [] := by
    refine List.filter_eq_nil_iff.mpr fun member found same => ?_
    obtain ⟨other, inOthers, rfl⟩ := List.mem_map.mp found
    obtain ⟨name, text, new⟩ := unknown other inOthers
    have name : name = field.1 := by simpa [named, text] using same
    exact new (name ▸ List.mem_map_of_mem inside)
  have among := (order.map named).filter (·.1 = field.1)
  rw [List.map_append, List.filter_append, fresh, List.append_nil] at among
  rcases found_of_filter distinct known inside with ⟨none, missing⟩ | ⟨member, one, given⟩
  · rw [none] at among
    simp only [Function.comp, among.eq_nil]
    exact ⟨_, rfl, missing⟩
  · rw [one] at among
    simp only [Function.comp, List.perm_singleton.mp among]
    exact ⟨_, rfl, given⟩

/-! ### What is read -/

def ReadAs {α : Type} [Decode α] (json : Json) (value : α) : Prop :=
  ∀ written, written.Gives json → ∀ position, Decode.decode position written = some value

private theorem Found.fieldOr? {α : Type} [Decode α] {name : String} {json : Json}
    {one : Option Json}
    {value : α} (found : Found names (name, json) one) (reads : json.ReadAs value)
    (position : Position) (absent : α) :
    fieldOr? position absent one = some (if name ∈ names then value else absent) := by
  cases found with
  | given named gives =>
      rw [if_pos named]
      exact reads _ gives position.inner
  | missing unnamed =>
      rw [if_neg unnamed]
      rfl

private theorem Gives.eq {written value : Json} (gives : written.Gives value)
    (plain : ∀ units, value ≠ .string units) : written = value := by
  cases gives with
  | same => rfl
  | text => exact absurd rfl (plain _)

private theorem readAs_of_faithful {α : Type} [Encode α] [Decode α] {value : α}
    (faithful : Faithful 0 value) (plain : ∀ units, encode value ≠ .string units) :
    (encode value).ReadAs value := by
  intro written gives position
  rw [gives.eq plain]
  exact faithful.decoded position

private theorem readAs_string (value : String) : (encode value).ReadAs value := by
  intro written gives position
  generalize form : encode value = json at gives
  cases gives with
  | same => exact form ▸ (@Faithful.string 0 value).decoded position
  | text spelled =>
      have same := congrArg TextUnit.toString? (Json.string.inj form)
      rw [TextUnit.toString?_ofString, TextUnit.toString?_ofString] at same
      exact spelled.trans same.symm

private theorem readAs_option (value : Option String) : (encode value).ReadAs value := by
  cases value with
  | none =>
      intro written gives position
      rw [gives.eq nofun]
      rfl
  | some text =>
      intro written gives position
      have read := readAs_string text written gives position
      have known : written ≠ .null := by
        rintro rfl
        cases read
      rw [decode_option known, read]
      rfl

private theorem GivesFields.readAs {α : Type} [Decode α] {json : Json} {value : α}
    (gives : GivesFields fields names json)
    (read : ∀ position, Decode.decode position json = some value) : json.ReadAs value := by
  intro written same position
  have plain (units : List TextUnit) : json ≠ .string units := by
    cases gives
    nofun
  rw [same.eq plain]
  exact read position

end Json

open Json (GivesFields readAs_of_faithful readAs_string readAs_option)

/-! ## Sections -/

namespace SessionSettings

def fields (settings : SessionSettings) : List (String × Json) :=
  [("max_images", encode settings.maxImages),
    ("relay_thread_name", encode settings.relayThreadName)]

def keeping (names : List String) (settings : SessionSettings) : SessionSettings :=
  let absent : SessionSettings := {}
  { maxImages := if "max_images" ∈ names then settings.maxImages else absent.maxImages
    relayThreadName :=
      if "relay_thread_name" ∈ names then settings.relayThreadName else absent.relayThreadName }

private theorem decode_of_givesFields {settings : SessionSettings} {names : List String}
    {json : Json} (gives : GivesFields settings.fields names json) (position : Position) :
    Decode.decode position json = some (settings.keeping names) := by
  obtain ⟨found, read, holds⟩ := gives.exists_found (by simp [fields])
  obtain _ | ⟨imagesFound, _ | ⟨threadFound, ⟨⟩⟩⟩ := holds
  have imagesRead := imagesFound.fieldOr? (readAs_of_faithful (.uint64 _) nofun) position
  have threadRead := threadFound.fieldOr? (readAs_string _) position
  change (json.optionalFields? (settings.fields.map (·.1))).bind _ = _
  rw [read]
  simp [imagesRead, threadRead, keeping]

end SessionSettings

namespace SimulationSettings

def fields (settings : SimulationSettings) : List (String × Json) :=
  [("fps", encode settings.fps), ("frames", encode settings.frames),
    ("preview_width", encode settings.previewWidth),
    ("preview_height", encode settings.previewHeight),
    ("active_array_width", encode settings.activeArrayWidth),
    ("active_array_height", encode settings.activeArrayHeight),
    ("forward_delay_ms", encode settings.forwardDelay)]

def keeping (names : List String) (settings : SimulationSettings) : SimulationSettings :=
  let absent : SimulationSettings := {}
  { fps := if "fps" ∈ names then settings.fps else absent.fps
    frames := if "frames" ∈ names then settings.frames else absent.frames
    previewWidth :=
      if "preview_width" ∈ names then settings.previewWidth else absent.previewWidth
    previewHeight :=
      if "preview_height" ∈ names then settings.previewHeight else absent.previewHeight
    activeArrayWidth :=
      if "active_array_width" ∈ names then settings.activeArrayWidth else absent.activeArrayWidth
    activeArrayHeight :=
      if "active_array_height" ∈ names then settings.activeArrayHeight
      else absent.activeArrayHeight
    forwardDelay :=
      if "forward_delay_ms" ∈ names then settings.forwardDelay else absent.forwardDelay }

private theorem decode_of_givesFields {settings : SimulationSettings} {names : List String}
    {json : Json} (gives : GivesFields settings.fields names json) (position : Position) :
    Decode.decode position json = some (settings.keeping names) := by
  obtain ⟨found, read, holds⟩ := gives.exists_found (by simp [fields])
  obtain _ | ⟨fpsFound, _ | ⟨framesFound, _ | ⟨widthFound, _ | ⟨heightFound,
    _ | ⟨arrayWidthFound, _ | ⟨arrayHeightFound, _ | ⟨delayFound, ⟨⟩⟩⟩⟩⟩⟩⟩⟩ := holds
  have fpsRead := fpsFound.fieldOr? (readAs_of_faithful (.uint32 _) nofun) position
  have framesRead := framesFound.fieldOr? (readAs_of_faithful (.uint32 _) nofun) position
  have widthRead := widthFound.fieldOr? (readAs_of_faithful (.uint32 _) nofun) position
  have heightRead := heightFound.fieldOr? (readAs_of_faithful (.uint32 _) nofun) position
  have arrayWidthRead := arrayWidthFound.fieldOr? (readAs_of_faithful (.int32 _) nofun) position
  have arrayHeightRead := arrayHeightFound.fieldOr? (readAs_of_faithful (.int32 _) nofun) position
  have delayRead := delayFound.fieldOr? (readAs_of_faithful (.uint64 _) nofun) position
  change (json.optionalFields? (settings.fields.map (·.1))).bind _ = _
  rw [read]
  simp [fpsRead, framesRead, widthRead, heightRead, arrayWidthRead, arrayHeightRead, delayRead,
    keeping]

end SimulationSettings

namespace LoggingSettings

def fields (settings : LoggingSettings) : List (String × Json) :=
  [("level", encode settings.level), ("json", encode settings.json),
    ("file", encode settings.file)]

def keeping (names : List String) (settings : LoggingSettings) : LoggingSettings :=
  let absent : LoggingSettings := {}
  { level := if "level" ∈ names then settings.level else absent.level
    json := if "json" ∈ names then settings.json else absent.json
    file := if "file" ∈ names then settings.file else absent.file }

private theorem decode_of_givesFields {settings : LoggingSettings} {names : List String}
    {json : Json} (gives : GivesFields settings.fields names json) (position : Position) :
    Decode.decode position json = some (settings.keeping names) := by
  obtain ⟨found, read, holds⟩ := gives.exists_found (by simp [fields])
  obtain _ | ⟨levelFound, _ | ⟨asJsonFound, _ | ⟨fileFound, ⟨⟩⟩⟩⟩ := holds
  have levelRead := levelFound.fieldOr? (readAs_string _) position
  have asJsonRead := asJsonFound.fieldOr? (readAs_of_faithful (.bool _) nofun) position
  have fileRead := fileFound.fieldOr? (readAs_option _) position
  change (json.optionalFields? (settings.fields.map (·.1))).bind _ = _
  rw [read]
  simp [levelRead, asJsonRead, fileRead, keeping]

end LoggingSettings

/-! ## Whole files -/

/-- The names of the sections that a file gives, and of the settings
that each of them gives. -/
structure SettingNames where
  sections : List String
  session : List String
  simulation : List String
  logging : List String

namespace Settings

/-- The named settings of the named sections, and defaults for the others. -/
def keeping (names : SettingNames) (settings : Settings) : Settings :=
  let absent : Settings := {}
  { session :=
      if "session" ∈ names.sections then settings.session.keeping names.session
      else absent.session
    simulation :=
      if "simulation" ∈ names.sections then settings.simulation.keeping names.simulation
      else absent.simulation
    logging :=
      if "logging" ∈ names.sections then settings.logging.keeping names.logging
      else absent.logging }

/-- The object gives the named settings, at each level in any order and with other
members between them. -/
inductive GivenBy (settings : Settings) (names : SettingNames) : Json → Prop
  | object {session simulation logging json : Json}
      (givesSession : GivesFields settings.session.fields names.session session)
      (givesSimulation : GivesFields settings.simulation.fields names.simulation simulation)
      (givesLogging : GivesFields settings.logging.fields names.logging logging)
      (gives : GivesFields [("session", session), ("simulation", simulation), ("logging", logging)]
        names.sections json) : GivenBy settings names json

private theorem decode_of_givenBy {settings : Settings} {names : SettingNames} {json : Json}
    (given : settings.GivenBy names json) (position : Position) :
    Decode.decode position json = some (settings.keeping names) := by
  obtain ⟨givesSession, givesSimulation, givesLogging, gives⟩ := given
  obtain ⟨found, read, holds⟩ := gives.exists_found (by simp)
  obtain _ | ⟨sessionFound, _ | ⟨simulationFound, _ | ⟨loggingFound, ⟨⟩⟩⟩⟩ := holds
  have sessionRead := sessionFound.fieldOr?
    (givesSession.readAs (SessionSettings.decode_of_givesFields givesSession)) position
  have simulationRead := simulationFound.fieldOr?
    (givesSimulation.readAs (SimulationSettings.decode_of_givesFields givesSimulation)) position
  have loggingRead := loggingFound.fieldOr?
    (givesLogging.readAs (LoggingSettings.decode_of_givesFields givesLogging)) position
  change (json.optionalFields? ["session", "simulation", "logging"]).bind _ = _
  simp only [List.map_cons, List.map_nil] at read
  rw [read]
  simp [sessionRead, simulationRead, loggingRead, keeping]

end Settings

/-! ## Loading -/

/-- A file that gives some of the settings is read, whichever its text: each setting that it
gives has the value that is given, and every other one has its default. -/
theorem partial_settings_load {settings : Settings} {names : SettingNames} {json : Json}
    {text : String} (given : settings.GivenBy names json) (written : Json.IsTextOf text json) :
    Settings.load (.file text.toUTF8) = .ok (settings.keeping names) := by
  have read : decodeText Settings text = some (settings.keeping names) := by
    rw [decodeText, Json.parse?_eq_some_iff.mpr written]
    exact Settings.decode_of_givenBy given _
  simp only [Settings.load, Stored.read_written, bind, Except.bind, Settings.ofText, read]

/-- One setting among unknown members, of which one has a number that is out of range. -/
theorem partial_settings_load_sparse :
    Settings.load
        (.file "\x7b\"fps\":null,\"session\":\x7b\"\":[1e999],\"max_images\":4\x7d\x7d".toUTF8) =
      .ok { session := { maxImages := 4 } } := by
  let huge : Numeral := ⟨false, [1], [], some ⟨none, [9, 9, 9]⟩⟩
  let unknown : List TextUnit × Json := (TextUnit.ofString "", .array [.number huge])
  let images : List TextUnit × Json := (TextUnit.ofString "max_images", Json.ofNat 4)
  let session : Json := .object [unknown, images]
  let rate : List TextUnit × Json := (TextUnit.ofString "fps", .null)
  let block : List TextUnit × Json := (TextUnit.ofString "session", session)
  let settings : Settings := { session := { maxImages := 4, relayThreadName := "unnamed" } }
  have givesNothing (fields : List (String × Json)) : GivesFields fields [] (.object []) :=
    .object (List.Perm.refl ([] ++ [])) (by simp) (by simp)
  have givesSession : GivesFields settings.session.fields ["max_images"] session := by
    have order : [unknown, images].Perm ([images] ++ [unknown]) := .swap _ _ _
    refine .object order (.cons ⟨TextUnit.toString?_ofString _, .same _⟩ .nil) ?_
    simp [unknown, SessionSettings.fields]
  have gives : GivesFields
      [("session", session), ("simulation", .object []), ("logging", .object [])]
      ["session"] (.object [rate, block]) := by
    have order : [rate, block].Perm ([block] ++ [rate]) := .swap _ _ _
    refine .object order (.cons ⟨TextUnit.toString?_ofString _, .same _⟩ .nil) ?_
    simp [rate]
  have given : settings.GivenBy ⟨["session"], ["max_images"], [], []⟩ (.object [rate, block]) :=
    .object givesSession (givesNothing _) (givesNothing _) gives
  have valid : huge.IsValid := by simp [huge, Numeral.IsValid, Digit.zero]
  have list : (Json.array [.number huge]).Legible := .array (by simp [Json.Legible.number valid])
  have number : (Json.ofNat 4).Legible := .number (Numeral.isValid_ofInt 4)
  have inner : session.Legible := .object (by simp [unknown, images, list, number])
  have legible : (Json.object [rate, block]).Legible :=
    .object (by simp [rate, block, Json.Legible.null, inner])
  have written : Json.IsTextOf
      "\x7b\"fps\":null,\"session\":\x7b\"\":[1e999],\"max_images\":4\x7d\x7d" _ :=
    legible.spelledBy_toChars.isTextOf
  exact partial_settings_load given written

end EyesFree
