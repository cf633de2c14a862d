import Conduit.Json.Reader
import Conduit.Location.Basic
import Conduit.Time.Iso
import Conduit.Value.Document

/-!
# Faults

What goes wrong when a value is not what an operation needs. A fault is a cause; its class and its
wording follow from it.

* `FaultClass` — the broad classes of faults and the word for each;
* `Fault` — the causes, `Fault.kind` and `Fault.message`.
-/

namespace Conduit

/-- The broad classes of faults. -/
inductive FaultClass where
  /-- A value of the right kind that cannot be used. -/
  | value
  /-- A value of the wrong kind. -/
  | type
  /-- A name that an object does not have. -/
  | key
  /-- An operation that a kind of value does not have. -/
  | operation
  /-- A number beyond what can be represented. -/
  | overflow
  /-- A division by zero. -/
  | zeroDivision
  /-- A text that is no JSON document. -/
  | json
  /-- An operation that must not be made now. -/
  | runtime
  /-- A failure of the system around the program. -/
  | system
  /-- A file that is not there. -/
  | missingFile
  /-- A file in the place of a new one. -/
  | existingFile
  /-- A directory in the place of a file. -/
  | isDirectory
  /-- A file in the place of a directory. -/
  | notDirectory
  /-- A program text that cannot be read. -/
  | program
  /-- A place to which nothing can be sent. -/
  | address
  /-- A value that has no place in a document. -/
  | document
  /-- A client that is not there any more. -/
  | disconnection
  /-- Parts inside each other, too many of them. -/
  | depth
  /-- A value too large to be made. -/
  | room
  /-- A promise of the program that does not hold. -/
  | assertion
deriving DecidableEq, Inhabited

/-- The word for a class of faults in reports. -/
def FaultClass.name : FaultClass → String
  | value => "ValueError"
  | type => "TypeError"
  | key => "KeyError"
  | operation => "AttributeError"
  | overflow => "OverflowError"
  | zeroDivision => "ZeroDivisionError"
  | json => "JSONDecodeError"
  | runtime => "RuntimeError"
  | system => "OSError"
  | missingFile => "FileNotFoundError"
  | existingFile => "FileExistsError"
  | isDirectory => "IsADirectoryError"
  | notDirectory => "NotADirectoryError"
  | program => "SyntaxError"
  | address => "InvalidURL"
  | document => "PydanticSerializationError"
  | disconnection => "WebSocketDisconnect"
  | depth => "RecursionError"
  | room => "MemoryError"
  | assertion => "AssertionError"

/-- The cause of a fault. -/
inductive Fault where
  /-- A text that is no integer numeral. -/
  | notIntegerText (s : String)
  /-- A text that is no decimal numeral. -/
  | notRealText (s : String)
  /-- An integer numeral with more digits than are read. -/
  | tooManyDigits (count : Nat)
  /-- A kind of value that has no real number. -/
  | notReal (kind : String)
  /-- A kind of value that has no integer. -/
  | notInteger (kind : String)
  /-- Infinity where an integer is wanted. -/
  | infiniteInteger
  /-- NaN where an integer is wanted. -/
  | nanInteger
  /-- An integer beyond the largest double. -/
  | beyondDouble
  /-- An integer beyond a machine word where a size is wanted. -/
  | beyondWord
  /-- A value too large to be made. -/
  | noRoom
  /-- A kind of value without a length. -/
  | noLength (kind : String)
  /-- A kind of value that cannot be written as JSON. -/
  | notWritable (kind : String)
  /-- Two kinds of values without an order. -/
  | unordered (pair : Value.Unordered)
  /-- Two kinds of values without an order, where an operator asks for it. -/
  | unorderedBy (operator left right : String)
  /-- A kind of value without the operation that was asked for. -/
  | noOperation (kind operation : String)
  /-- A kind of value that cannot be searched. -/
  | notSearchable (kind : String)
  /-- A kind of value that cannot be gone through. -/
  | notIterable (kind : String)
  /-- A kind of value that a text cannot be searched for. -/
  | searchedInText (kind : String)
  /-- A kind of value that cannot name a member. -/
  | notName (kind : String)
  /-- A kind of value that has no parts. -/
  | noParts (kind : String)
  /-- A text read at the place of a name. -/
  | textAtName
  /-- A list read at the place of a name. -/
  | listAtName
  /-- A kind of value where the fields of a record are wanted. -/
  | notFields (record kind : String)
  /-- A path without any segment. -/
  | badPath (path : String)
  /-- A member that is not there. -/
  | noMember (key : String)
  /-- A text that is not JSON. -/
  | badJson (error : Json.ReadError)
  /-- An item of a list that is no text where the list is joined. -/
  | notJoinable (index : Nat) (kind : String)
  /-- A number of a JSON document that is infinite or NaN. -/
  | outOfRangeNumber
  /-- Operands that an operator does not take. -/
  | badOperands (operator left right : String)
  /-- A value added to a text. -/
  | notAddable (kind : String)
  /-- A value added to a list. -/
  | notAddableToList (kind : String)
  /-- A division by zero. -/
  | divisionByZero
  /-- The output of a step that was recorded before. -/
  | recordedTwice (step : String)
  /-- A moment with an offset and one without, where the time between them is wanted. -/
  | mixedMoments
  /-- Fewer steps at once than one. -/
  | noConcurrency
  /-- A value that is not one of the allowed words. -/
  | notAmong (shown what : String)
  /-- A file that is not there. -/
  | fileMissing (path : String)
  /-- A file that is there already. -/
  | fileExists (path : String)
  /-- A directory in the place of a file. -/
  | directoryFound (path : String)
  /-- A file in the place of a directory. -/
  | directoryExpected (path : String)
  /-- A kind of store that there is not. -/
  | unknownStore (kind : String)
  /-- A value where a document is wanted that has no place in one. -/
  | notDocument (flaw : Value.DocumentFlaw)
  /-- An integer that is not written. -/
  | longInteger
  /-- A client that is not there any more. -/
  | disconnected
  /-- A text that spells no location. -/
  | badLocation (flaw : Location.Flaw)
  /-- Characters beside the plain ones in a text of plain ones: the first of them, its place and
  their number. -/
  | notPlain (c : Char) (place count : Nat)
  /-- A text that gives no moment. -/
  | badMoment (text : String) (flaw : Moment.Flaw)
  /-- Steps that wait for each other where an order of them is wanted. -/
  | notAcyclic
  /-- Any other fault, with its wording. -/
  | other (kind : FaultClass) (message : String)
deriving DecidableEq, Inhabited

namespace Fault

/-- The moment that a text spells, or the fault of it. -/
def momentOf (text : String) : Except Fault Moment :=
  match Moment.ofIso text with
  | .ok m => .ok m
  | .error flaw => .error (badMoment text flaw)

/-- The fault of a text that is not read as an integer. -/
def ofNumeral (s : String) : Numeral.Flaw → Fault
  | .malformed => notIntegerText s
  | .tooLong count => tooManyDigits count

/-- The class of a fault. -/
def kind : Fault → FaultClass
  | notIntegerText _ => .value
  | notRealText _ => .value
  | tooManyDigits _ => .value
  | notReal _ => .type
  | notInteger _ => .type
  | infiniteInteger => .overflow
  | nanInteger => .value
  | beyondDouble => .overflow
  | beyondWord => .overflow
  | noRoom => .room
  | noLength _ => .type
  | notWritable _ => .type
  | unordered _ => .type
  | unorderedBy _ _ _ => .type
  | noOperation _ _ => .operation
  | notSearchable _ => .type
  | notIterable _ => .type
  | searchedInText _ => .type
  | notName _ => .type
  | noParts _ => .type
  | textAtName => .type
  | listAtName => .type
  | notFields _ _ => .type
  | badPath _ => .value
  | noMember _ => .key
  | badJson (.tooManyDigits _) => .value
  | badJson (.undecodable _) => .value
  | badJson (.tooDeep _) => .depth
  | badJson _ => .json
  | notJoinable _ _ => .type
  | outOfRangeNumber => .value
  | badOperands _ _ _ => .type
  | notAddable _ => .type
  | notAddableToList _ => .type
  | divisionByZero => .zeroDivision
  | recordedTwice _ => .runtime
  | mixedMoments => .type
  | noConcurrency => .value
  | notAmong _ _ => .value
  | fileMissing _ => .missingFile
  | fileExists _ => .existingFile
  | directoryFound _ => .isDirectory
  | directoryExpected _ => .notDirectory
  | unknownStore _ => .value
  | notDocument .handle => .document
  | notDocument .depth => .value
  | longInteger => .value
  | disconnected => .disconnection
  | badLocation _ => .address
  | notPlain _ _ _ => .value
  | badMoment _ _ => .value
  | notAcyclic => .assertion
  | other kind _ => kind

/-- The wording of a fault. -/
def message : Fault → String
  | notIntegerText s =>
    "invalid literal for int() with base 10: " ++ String.ofList ((Text.quoted s).toList.take 200)
  | notRealText s => "could not convert string to float: " ++ Text.quoted s
  | tooManyDigits count => Json.digitLimitMessage count
  | notReal kind => "float() argument must be a string or a real number, not '" ++ kind ++ "'"
  | notInteger kind =>
    "int() argument must be a string, a bytes-like object or a real number, not '" ++ kind ++ "'"
  | infiniteInteger => "cannot convert float infinity to integer"
  | nanInteger => "cannot convert float NaN to integer"
  | beyondDouble => "int too large to convert to float"
  | beyondWord => "cannot fit 'int' into an index-sized integer"
  | noRoom => ""
  | noLength kind => "object of type '" ++ kind ++ "' has no len()"
  | notWritable kind => "Object of type " ++ kind ++ " is not JSON serializable"
  | unordered pair =>
    "'<' not supported between instances of '" ++ pair.left ++ "' and '" ++ pair.right ++ "'"
  | unorderedBy operator left right =>
    "'" ++ operator ++ "' not supported between instances of '" ++ left ++ "' and '" ++ right
      ++ "'"
  | noOperation kind operation => "'" ++ kind ++ "' object has no attribute '" ++ operation ++ "'"
  | notSearchable kind => "argument of type '" ++ kind ++ "' is not iterable"
  | notIterable kind => "'" ++ kind ++ "' object is not iterable"
  | searchedInText kind => "'in <string>' requires string as left operand, not " ++ kind
  | notName kind => "unhashable type: '" ++ kind ++ "'"
  | noParts kind => "'" ++ kind ++ "' object is not subscriptable"
  | textAtName => "string indices must be integers, not 'str'"
  | listAtName => "list indices must be integers or slices, not str"
  | notFields record kind =>
    record ++ "() argument after ** must be a mapping, not " ++ kind
  | badPath path => "Invalid field path: " ++ Text.quoted path
  | noMember key => Text.quoted key
  | badJson error => error.message
  | notJoinable index kind =>
    "sequence item " ++ toString index ++ ": expected str instance, " ++ kind ++ " found"
  | outOfRangeNumber => "Out of range float values are not JSON compliant"
  | badOperands operator left right =>
    "unsupported operand type(s) for " ++ operator ++ ": '" ++ left ++ "' and '" ++ right ++ "'"
  | notAddable kind => "can only concatenate str (not \"" ++ kind ++ "\") to str"
  | notAddableToList kind => "can only concatenate list (not \"" ++ kind ++ "\") to list"
  | divisionByZero => "division by zero"
  | recordedTwice step => "Output for step '" ++ step ++ "' already recorded"
  | mixedMoments => "can't subtract offset-naive and offset-aware datetimes"
  | noConcurrency => "max_concurrency must be at least 1"
  | notAmong shown what => shown ++ " is not a valid " ++ what
  | fileMissing path => "[Errno 2] No such file or directory: " ++ Text.quoted path
  | fileExists path => "[Errno 17] File exists: " ++ Text.quoted path
  | directoryFound path => "[Errno 21] Is a directory: " ++ Text.quoted path
  | directoryExpected path => "[Errno 20] Not a directory: " ++ Text.quoted path
  | unknownStore kind => "Unknown store backend: " ++ kind
  | notDocument .handle => "Unable to serialize unknown type: <class 'fakes.Opaque'>"
  | notDocument .depth => "Maximum serialization depth exceeded"
  | longInteger =>
    "Exceeds the limit (" ++ toString Numeral.digitLimit
      ++ " digits) for integer string conversion; "
      ++ "use sys.set_int_max_str_digits() to increase the limit"
  | disconnected => ""
  | badLocation flaw => flaw.message
  | notPlain c place count =>
    "'ascii' codec can't encode "
      ++ (if count = 1 then
          "character '" ++ String.ofList (Text.codeEscape c) ++ "' in position " ++ toString place
        else
          "characters in position " ++ toString place ++ "-" ++ toString (place + count - 1))
      ++ ": ordinal not in range(128)"
  | badMoment text flaw => flaw.message (Text.quoted text)
  | notAcyclic => "dependency graph is not acyclic"
  | other _ message => message

/-- A fault as one line: the word for its class and its wording. -/
def report (f : Fault) : String := f.kind.name ++ ": " ++ f.message

end Fault

end Conduit
