import EyesFree.Metadata.Key
import EyesFree.Metadata.Value

namespace EyesFree

/-! Metadata: at most one value for each key. Two such maps with the same values are equal, in
whatever order they were filled; they are traversed in the order of the keys. -/

@[ext] structure Metadata (κ : Type) where
  get : κ → Option Value

namespace Metadata

variable {κ : Type}

def empty : Metadata κ := ⟨fun _ => none⟩

def contains (metadata : Metadata κ) (key : κ) : Bool := (metadata.get key).isSome

/-- Insert a value, or replace the one that the key has. -/
def set [DecidableEq κ] (metadata : Metadata κ) (key : κ) (value : Value) : Metadata κ :=
  ⟨fun other => if other = key then some value else metadata.get other⟩

def setSome [DecidableEq κ] (metadata : Metadata κ) (key : κ) : Option Value → Metadata κ
  | none => metadata
  | some value => metadata.set key value

def restrict (metadata : Metadata κ) (keys : KeySet κ) : Metadata κ :=
  ⟨fun key => if keys.contains key then metadata.get key else none⟩

def entries [Enumeration κ] (metadata : Metadata κ) : List (κ × Value) :=
  Enumeration.values.filterMap fun key => (metadata.get key).map (key, ·)

def keys [Enumeration κ] (metadata : Metadata κ) : List κ :=
  Enumeration.values.filter metadata.contains

def size [Enumeration κ] (metadata : Metadata κ) : Nat := metadata.entries.length

def isEmpty [Enumeration κ] (metadata : Metadata κ) : Bool := metadata.entries.isEmpty

/-- The map that lists of entries describe; of several values of a key the last one counts. -/
def ofEntries [DecidableEq κ] (entries : List (κ × Value)) : Metadata κ :=
  entries.foldl (fun metadata entry => metadata.set entry.1 entry.2) empty

instance [Enumeration κ] : DecidableEq (Metadata κ) := fun left right =>
  if equal : ∀ key ∈ (Enumeration.values : List κ), left.get key = right.get key then
    isTrue (Metadata.ext (funext fun key => equal key (Enumeration.complete key)))
  else isFalse fun same => equal fun _ _ => by rw [same]

@[simp] theorem get_empty (key : κ) : (empty : Metadata κ).get key = none := rfl

@[simp] theorem get_set [DecidableEq κ] (metadata : Metadata κ) (key other : κ) (value : Value) :
    (metadata.set key value).get other = if other = key then some value else metadata.get other :=
  rfl

@[simp] theorem get_restrict (metadata : Metadata κ) (keys : KeySet κ) (key : κ) :
    (metadata.restrict keys).get key = if keys.contains key then metadata.get key else none := rfl

theorem get_setSome [DecidableEq κ] (metadata : Metadata κ) (key other : κ)
    (value : Option Value) :
    (metadata.setSome key value).get other =
      if other = key then value.or (metadata.get other) else metadata.get other := by
  cases value with
  | none => simp [setSome]
  | some value => simp [setSome]

theorem mem_entries [Enumeration κ] {metadata : Metadata κ} {key : κ} {value : Value} :
    (key, value) ∈ metadata.entries ↔ metadata.get key = some value := by
  constructor
  · intro member
    obtain ⟨other, _, found⟩ := List.mem_filterMap.mp member
    obtain ⟨stored, storedEqual, pairEqual⟩ := Option.map_eq_some_iff.mp found
    cases pairEqual
    exact storedEqual
  · intro found
    exact List.mem_filterMap.mpr ⟨key, Enumeration.complete key, by simp [found]⟩

theorem entries_keys [Enumeration κ] (metadata : Metadata κ) :
    metadata.entries.map (·.1) = metadata.keys := by
  unfold entries keys contains
  induction (Enumeration.values : List κ) with
  | nil => rfl
  | cons head tail induction =>
      cases found : metadata.get head with
      | none => simpa [found] using induction
      | some value => simpa [found] using induction

/-- Entries that are set one after the other count more than what was there before, and later ones
more than earlier ones. -/
theorem get_foldl_set [DecidableEq κ] (entries : List (κ × Value)) (metadata : Metadata κ)
    (key : κ) :
    (entries.foldl (fun metadata entry => metadata.set entry.1 entry.2) metadata).get key =
      ((entries.reverse.find? (·.1 = key)).map (·.2)).or (metadata.get key) := by
  induction entries generalizing metadata with
  | nil => simp
  | cons head tail induction =>
      rw [List.foldl_cons, induction, List.reverse_cons, List.find?_append]
      by_cases same : head.1 = key
      · subst same
        cases tail.reverse.find? (·.1 = head.1) <;> simp
      · have different : key ≠ head.1 := fun equal => same equal.symm
        cases tail.reverse.find? (·.1 = key) <;> simp [same, different]

/-- Of the values that a list gives for a key, the last one counts. -/
theorem get_ofEntries [DecidableEq κ] (entries : List (κ × Value)) (key : κ) :
    (ofEntries entries).get key = (entries.reverse.find? (·.1 = key)).map (·.2) := by
  rw [ofEntries, get_foldl_set, get_empty, Option.or_none]

end Metadata

/-- Parameters that a client asks for. -/
abbrev CaptureRequest := Metadata RequestKey

/-- What the camera reports about one frame, and what a client receives about it. -/
abbrev CaptureResult := Metadata ResultKey

/-- The time at which the sensor took a frame, in nanoseconds. -/
abbrev Timestamp := Int64

/-- The sensor's timestamp, if the result carries one of the right type. -/
def CaptureResult.sensorTimestamp (result : CaptureResult) : Option Timestamp :=
  (result.get .sensorTimestamp).bind Value.asLong?

instance {κ : Type} [MetadataKey κ] : Encode (Metadata κ) where
  encode metadata := .record (metadata.entries.map fun (key, value) =>
    (MetadataKey.name key, encode value))

/-- The entries of an object whose members are named by keys. -/
def Metadata.decodeMembers {κ : Type} [MetadataKey κ] (position : Position)
    (members : List (List TextUnit × Json)) : Option (List (κ × Value)) :=
  members.mapM fun (name, json) => do
    let key ← Enumeration.named? MetadataKey.name (← TextUnit.toString? name)
    return (key, ← Decode.decode position json)

instance {κ : Type} [MetadataKey κ] : Decode (Metadata κ) where
  decode position
    | .object members => (Metadata.decodeMembers position.inner members).map .ofEntries
    | _ => none

/-! ## Snapshots -/

/-- The parameters that a request was made with, in the order in which they were listed. A key may
be listed more than once; its first value counts. -/
structure Snapshot where
  entries : List (RequestKey × Value)
deriving DecidableEq, Repr

namespace Snapshot

def get? (snapshot : Snapshot) (key : RequestKey) : Option Value :=
  (snapshot.entries.find? (·.1 = key)).map (·.2)

def contains (snapshot : Snapshot) (key : RequestKey) : Bool := (snapshot.get? key).isSome

def keys (snapshot : Snapshot) : List RequestKey := snapshot.entries.map (·.1)

def size (snapshot : Snapshot) : Nat := snapshot.entries.length

def isEmpty (snapshot : Snapshot) : Bool := snapshot.entries.isEmpty

end Snapshot

instance : Encode Snapshot where
  encode snapshot := .array (snapshot.entries.map fun (key, value) =>
    .array [encode key, encode value])

instance : Decode Snapshot where
  decode position
    | .array items => (items.mapM (Json.pair? Decode.decode Decode.decode position.inner)).map
        Snapshot.mk
    | _ => none

end EyesFree
