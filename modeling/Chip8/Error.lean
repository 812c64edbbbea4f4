import Chip8.Decimal.Plain
import Chip8.Fault
import Chip8.Folder
import Chip8.Text.Quoted

/-!
# Error — everything an operation can be refused for

A fault of the machine is one kind of error; the others are settings and arguments that mean
nothing, numbers too large for their place, clock readings that cannot be counted, values left
blank, and a program file that cannot be read.  An error is a cause; `Error.title` and
`Error.message` put it into words.
-/

namespace Chip8

/-- A number as it was given: a whole number or a double. -/
inductive Quantity
  | whole (n : Int)
  | real (x : Double)

/-- The text of a number as it was given. -/
def Quantity.text : Quantity → String
  | whole n => toString n
  | real x => Decimal.text x

/-- Whether an integer fits a signed word of some bits. -/
def fitsSigned (bits : Nat) (n : Int) : Bool :=
  let limit : Nat := 1 <<< (bits - 1)
  n < limit && -limit ≤ n

/-- Everything an operation can be refused for. -/
inductive Error
  | fault (fault : Fault)
  /-- An instruction word is not a number of sixteen bits. -/
  | wordRange (value : Int)
  /-- No such key is on the keypad. -/
  | keyRange (key : Int)
  /-- A timer frequency is zero or negative. -/
  | frequencyRange (value : Quantity)
  /-- A whole number is beyond the range of doubles. -/
  | beyondDoubles
  /-- A picture is enlarged by less than one. -/
  | scaleRange (scale : Int)
  /-- A colour component is not a byte. -/
  | componentRange (value : Int)
  /-- A clock reading is not a number. -/
  | notANumber
  /-- A clock reading is infinite. -/
  | infinite
  /-- A name is none of those of a closed `kind` of settings. -/
  | unknownMember (kind name : String)
  /-- A log level is not one of those `available`. -/
  | unknownLevel (name : String) (available : List String)
  /-- A colour scheme is not one of those `available`. -/
  | unknownScheme (name : String) (available : List String)
  /-- The file at this path cannot be read. -/
  | unreadable (cause : FileFailure) (path : String)
  /-- A whole number needs more than 64 bits. -/
  | tooWide
  /-- A coordinate needs more than 32 bits. -/
  | coordinateRange (value : Int)
  /-- The rows of a picture, `count` of them, are not equally long. -/
  | unevenRows (count : Nat)
  /-- A side of an array cannot be counted. -/
  | dimensionRange
  /-- The bytes of an array cannot be counted. -/
  | sizeRange
  /-- There is no room for an array of bytes. -/
  | noRoom (shape : List Nat)
  /-- A window is opened with a negative size. -/
  | negativeWindow
  /-- A window is opened with a size that no screen can count. -/
  | uncountableWindow
  /-- A window is opened with a size beyond that of screens. -/
  | windowTooLarge
  /-- The log level was left blank. -/
  | blankLevel
  /-- The colour scheme was left blank. -/
  | blankScheme
  /-- The number of steps in a frame was left blank. -/
  | blankTicks
  /-- A logger of some kind is asked for something that it does not have. -/
  | unknownCall (kind name : String)

namespace Error

/-- The name under which an error is reported. -/
def title : Error → String
  | fault f => f.title
  | beyondDoubles | componentRange _ | infinite | tooWide | coordinateRange _ => "OverflowError"
  | unreadable .missing _ => "FileNotFoundError"
  | unreadable .isFolder _ => "IsADirectoryError"
  | unreadable .notFolder _ => "NotADirectoryError"
  | unreadable .nameTooLong _ => "OSError"
  | noRoom _ => "MemoryError"
  | negativeWindow | windowTooLarge => "error"
  | uncountableWindow | blankScheme | blankTicks => "TypeError"
  | blankLevel | unknownCall .. => "AttributeError"
  | _ => "ValueError"

open Text in
/-- The text of an error. -/
def message : Error → String
  | fault f => f.message
  | wordRange value => s!"Opcode must fit in 16 bits, got 0x{hexInt 0 value}"
  | keyRange key => s!"Key index must be in [0, 16), got {key}"
  | frequencyRange value => s!"timer_frequency must be positive, got {value.text}"
  | beyondDoubles => "int too large to convert to float"
  | scaleRange scale => s!"scale must be at least 1, got {scale}"
  | componentRange value => s!"Python integer {value} out of bounds for uint8"
  | notANumber => "cannot convert float NaN to integer"
  | infinite => "cannot convert float infinity to integer"
  | unknownMember kind name => s!"{quoted name} is not a valid {kind}"
  | unknownLevel name available =>
    s!"Unknown log level '{name}'. Available: {quotedList available}"
  | unknownScheme name available =>
    s!"Unknown color scheme '{name}'. Available: {quotedList available}"
  | unreadable .missing path => s!"[Errno 2] No such file or directory: {quoted path}"
  | unreadable .isFolder path => s!"[Errno 21] Is a directory: {quoted path}"
  | unreadable .notFolder path => s!"[Errno 20] Not a directory: {quoted path}"
  | unreadable .nameTooLong path => s!"[Errno 36] File name too long: {quoted path}"
  | unreadable .zeroInPath _ => "embedded null byte"
  | tooWide => "Python int too large to convert to C long"
  | coordinateRange value =>
    "An overflow was encountered while parsing an argument to a jitted computation, whose " ++
      s!"argument path is x. Got <class 'int'> with value {value}"
  | unevenRows count =>
    "setting an array element with a sequence. The requested array has an inhomogeneous shape " ++
      s!"after 1 dimensions. The detected shape was ({count},) + inhomogeneous part."
  | dimensionRange => "Maximum allowed dimension exceeded"
  | sizeRange =>
    "array is too big; `arr.size * arr.dtype.itemsize` is larger than the maximum possible size."
  | noRoom shape =>
    let sides := ", ".intercalate (shape.map toString)
    s!"Unable to allocate {Decimal.byteCount (shape.foldl (· * ·) 1)} for an array with shape " ++
      s!"({sides}) and data type uint8"
  | negativeWindow => "Cannot set negative sized display mode"
  | uncountableWindow => "size must be two numbers"
  | windowTooLarge => "Window is too large."
  | blankLevel => "'list' object has no attribute 'upper'"
  | unknownCall kind name => s!"'{kind}' object has no attribute '{name}'"
  | blankScheme => "unhashable type: 'list'"
  | blankTicks => "'list' object cannot be interpreted as an integer"

end Error

/-- The word that an integer stands for. -/
def Word.parse (n : Int) : Except Error Word :=
  match ofInt? n with
  | some w => .ok w
  | none => .error (.wordRange n)

end Chip8
