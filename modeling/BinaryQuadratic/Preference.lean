import BinaryQuadratic.Index
import BinaryQuadratic.Text.Blank
import BinaryQuadratic.Text.Decimal

/-!
# Preferences

What a search can be asked to do differently, as pairs of a name and a value. The algorithm can be named, but exhaustive
search has only one; the tile size can be set; the precision and the device are for reading. Names are matched exactly.
Blank characters around the name of an algorithm or around a number are ignored, other values are taken as they are.
-/

namespace BinaryQuadratic

/-! ## Names -/

/-- Names of preferences. -/
inductive PreferenceName where
  | algorithm
  | tileSize
  | precision
  | device
  deriving DecidableEq

namespace PreferenceName

/-- Every name, in the order in which preferences are listed. -/
def all : List PreferenceName := [.algorithm, .tileSize, .precision, .device]

/-- Spelling of a name. -/
def text : PreferenceName → String
  | .algorithm => "algorithm"
  | .tileSize => "tile_size"
  | .precision => "precision"
  | .device => "device"

/-- The name with this spelling. -/
def ofText? (text : String) : Option PreferenceName := all.find? (·.text == text)

end PreferenceName

/-- Search algorithms that can be asked for. -/
inductive Algorithm where
  /-- Whichever the solver likes best. -/
  | default
  /-- Look at every assignment. -/
  | bruteForceSearch
  deriving DecidableEq

namespace Algorithm

/-- Every algorithm. -/
def all : List Algorithm := [.default, .bruteForceSearch]

/-- Spelling of an algorithm. -/
def text : Algorithm → String
  | .default => "default"
  | .bruteForceSearch => "brute-force-search"

/-- The algorithm with this spelling. -/
def ofText? (text : String) : Option Algorithm := all.find? (·.text == text)

end Algorithm

/-! ## Refusals -/

/-- Why a preference, or a setting given with it, is refused. -/
inductive PreferenceError where
  /-- No preference has this name. -/
  | unknown (name : String)
  /-- The quantity is not a positive number. -/
  | notPositive (quantity : String)
  /-- The preference cannot be set. -/
  | readOnly (name : PreferenceName)
  /-- Any other reason, in words. -/
  | other (reason : String)
  deriving DecidableEq

namespace PreferenceError

/-- Wording of a refusal. -/
def message : PreferenceError → String
  | .unknown name => s!"unknown preference '{name}'"
  | .notPositive quantity => s!"{quantity} must be a positive integer"
  | .readOnly name => s!"{name.text} is read-only"
  | .other reason => reason

/-- The refusal of a tile size. -/
def tileSize : PreferenceError := .notPositive PreferenceName.tileSize.text

end PreferenceError

/-! ## Preferences -/

/-- A preference with its value. -/
inductive Preference where
  | algorithm (value : Algorithm)
  | tileSize (value : UInt64)
  | precision (value : String)
  | device (value : String)
  deriving DecidableEq

namespace Preference

/-- Name of a preference. -/
def name : Preference → PreferenceName
  | .algorithm _ => .algorithm
  | .tileSize _ => .tileSize
  | .precision _ => .precision
  | .device _ => .device

/-- Value of a preference, in words. -/
def text : Preference → String
  | .algorithm value => value.text
  | .tileSize value => Text.ofWord value
  | .precision value => value
  | .device value => value

/-- The preference that a name and a value in words denote. An algorithm that is not known is the default one. -/
def parse (name value : String) : Except PreferenceError Preference :=
  match PreferenceName.ofText? name with
  | none => .error (.unknown name)
  | some .algorithm => .ok (.algorithm ((Algorithm.ofText? (Text.trim value)).getD .default))
  | some .tileSize =>
    match Text.word? (Text.trim value) with
    | some size => .ok (.tileSize size)
    | none => .error .tileSize
  | some .precision => .ok (.precision value)
  | some .device => .ok (.device value)

/-- What setting the preference changes: the tile size, or nothing. -/
def change : Preference → Except PreferenceError (Option Count)
  | .algorithm _ => .ok none
  | .tileSize value => if h : 0 < value then .ok (some ⟨value, h⟩) else .error .tileSize
  | .precision _ => .error (.readOnly .precision)
  | .device _ => .error (.readOnly .device)

end Preference

end BinaryQuadratic
