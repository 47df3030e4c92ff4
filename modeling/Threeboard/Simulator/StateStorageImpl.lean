import Threeboard.Simulator.Json
import Threeboard.Storage.Bench

namespace Threeboard.Simulator

open Actions Integration Storage

structure JsonProperty where
  name : Text
  maxIndex : UInt8
  maxLength : UInt16
  deriving DecidableEq, Repr

def characterShortcuts : JsonProperty := ⟨text "character_shortcuts", 255, 1⟩
def wordShortcuts : JsonProperty := ⟨text "word_shortcuts", 255, 15⟩
def blobShortcuts : JsonProperty := ⟨text "blob_shortcuts", 248, 255⟩

def jsonProperties : List JsonProperty := [characterShortcuts, wordShortcuts, blobShortcuts]

inductive InvalidArgument where
  | missing (name : Text)
  | badIndex (rawIdx : Text)
  | notString (idx : ℤ)
  | outOfRange (idx : ℤ) (property : JsonProperty)
  | tooLong (value : Text) (idx : ℤ) (property : JsonProperty)
  deriving DecidableEq, Repr

def shownText (t : Text) : String := String.ofList (t.map fun c => Char.ofNat c.toNat)

def InvalidArgument.message (what : String) : InvalidArgument → String
  | missing name => "State file must contain property '" ++ shownText name ++ "'"
  | badIndex rawIdx => "Could not convert index '" ++ shownText rawIdx ++ "' to int: " ++ what
  | notString idx => "The value for index " ++ toString idx ++ " must be a string: " ++ what
  | outOfRange idx property =>
    "Index " ++ toString idx ++ " is out of range for property '" ++ shownText property.name ++
      "'. The largest allowable index for this property is " ++ toString property.maxIndex.toNat
  | tooLong value idx property =>
    "Value '" ++ shownText value ++ "' at index " ++ toString idx ++ " in property '" ++
      shownText property.name ++ "' exceeds the property's max length of " ++
      toString property.maxLength.toNat

def validateItem (property : JsonProperty) (item : Text × Json) : Except InvalidArgument Unit :=
  match stoi item.1 with
  | none => .error (.badIndex item.1)
  | some idx =>
    match item.2.getString with
    | none => .error (.notString idx)
    | some value =>
      if 0 > idx ∨ idx > property.maxIndex.toNat then .error (.outOfRange idx property)
      else if value.length > property.maxLength.toNat then .error (.tooLong value idx property)
      else .ok ()

def validateProperty (json : Json) (property : JsonProperty) : Except InvalidArgument Unit :=
  match json.member property.name with
  | none => .error (.missing property.name)
  | some items => items.items.forM (validateItem property)

def validate (json : Json) : Except InvalidArgument Unit :=
  jsonProperties.forM (validateProperty json)

-- The elements of the three arrays; one out of bounds throws, as does whatever gives no value.
def size : Chip → ℕ
  | .internal => 1024
  | .eeprom0 | .eeprom1 => 65535

def throwing {α : Type} (x : Option α) : Action Memory α := fun m => (x, m)

def fill (chip : Chip) : Action Memory Unit :=
  Action.modify fun m a => if a.1 = chip ∧ a.2.toNat < size chip then 0xFF else m a

def put (chip : Chip) (i : ℤ) (byte : UInt8) : Action Memory Unit :=
  if 0 ≤ i ∧ i < size chip then
    Action.modify fun m => Function.update m (chip, UInt16.ofNat i.toNat) byte
  else Action.stop

-- Subscripting a null value makes it an object with nothing but the null it then finds.
def subscript (json : Json) (name : Text) : Option Json :=
  match json with
  | .null => some .null
  | .object _ => some ((json.member name).getD .null)
  | _ => none

def forItems (json : Json) (property : JsonProperty) (body : Text → Json → Action Memory Unit) :
    Action Memory Unit := do
  let items ← throwing (subscript json property.name)
  forM items.items fun item => body item.1 item.2

def putLength (base : ℤ) (idx : Text) (value : Json) : Action Memory Unit := do
  let index ← throwing (stoi idx)
  let value ← throwing value.getString
  put .internal (base + index) (UInt8.ofNat value.length - 1)

-- The first element of an empty string is the null that ends it.
def putCharacter (idx : Text) (value : Json) : Action Memory Unit := do
  let value ← throwing value.getString
  let c := (toUsbKeycodes (value.headD 0)).1
  let index ← throwing (stoi idx)
  put .internal index (c - 1)

def configureInternalEeprom (json : Json) : Action Memory Unit := do
  fill .internal
  forItems json characterShortcuts putCharacter
  forItems json wordShortcuts (putLength 256)
  forItems json blobShortcuts (putLength 512)

def putWord (idx : Text) (value : Json) : Action Memory Unit := do
  let value ← throwing value.getString
  forM value.zipIdx fun e => do
    let c := (toUsbKeycodes e.1).1
    let index ← throwing (stoi idx)
    put .eeprom0 (index * 16 + e.2) (c - 1)

def putPair (chip : Chip) (eepromIdx : ℤ) (keycode modcode : UInt8) : Action Memory Unit := do
  put chip eepromIdx (keycode - 1)
  put chip (eepromIdx + 1) (modcode - 1)

def putBlob0 (idx : Text) (value : Json) : Action Memory Unit := do
  let value ← throwing value.getString
  let index ← throwing (stoi idx)
  forM value.zipIdx fun e =>
    if index < 120 then
      putPair .eeprom0 (0x1000 + index * 512 + e.2 * 2) (toUsbKeycodes e.1).1 (toUsbKeycodes e.1).2
    else pure ()

def putBlob1 (idx : Text) (value : Json) : Action Memory Unit := do
  let value ← throwing value.getString
  let index ← throwing (stoi idx)
  forM value.zipIdx fun e =>
    if index ≥ 120 then
      putPair .eeprom1 ((index - 120) * 512 + e.2 * 2) (toUsbKeycodes e.1).1 (toUsbKeycodes e.1).2
    else pure ()

def configureEeprom0 (json : Json) : Action Memory Unit := do
  fill .eeprom0
  forItems json wordShortcuts putWord
  forItems json blobShortcuts putBlob0

def configureEeprom1 (json : Json) : Action Memory Unit := do
  fill .eeprom1
  forItems json blobShortcuts putBlob1

-- StateStorageImpl(): the arrays hold anything before it; stopped means that it has thrown.
def configure (json : Json) : Action Memory Unit := do
  configureInternalEeprom json
  configureEeprom0 json
  configureEeprom1 json

-- A file that does not parse is taken for an empty one.
def createFromFile (parsed : Option Json) (memory : Memory) :
    Except InvalidArgument (Option Unit × Memory) :=
  match parsed with
  | none => .ok (configure .null memory)
  | some json => do
    validate json
    pure (configure json memory)

end Threeboard.Simulator
