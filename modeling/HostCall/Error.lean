import HostCall.Number.Literal
import HostCall.Signature
import HostCall.Text.Codec

/-!
# Errors

`ErrorKind` names the classes of errors and their ancestors.  A `HostError` is what host code
raises, by its cause; a `BridgeError` is a failure of the bridge itself.  The wording of each is
in one function.
-/

namespace HostCall

/-! ## Classes of errors -/

inductive ErrorKind where
  | base | exception
  | bridge | signature | typeResolution | methodNotFound | accessDenied | argumentMismatch
  | nullReceiver | invocationTarget
  | value | type | overflow | arithmetic | zeroDivision | lookup | index | key | attribute
  | runtime | assertion | os | permission | fileNotFound | isADirectory | import | moduleNotFound
  | stopIteration
  | other (name : Text)
  deriving DecidableEq

namespace ErrorKind

def name : ErrorKind → Text
  | .base => "BaseException"
  | .exception => "Exception"
  | .bridge => "BridgeError"
  | .signature => "SignatureError"
  | .typeResolution => "TypeResolutionError"
  | .methodNotFound => "MethodNotFoundError"
  | .accessDenied => "AccessDeniedError"
  | .argumentMismatch => "ArgumentMismatchError"
  | .nullReceiver => "NullReceiverError"
  | .invocationTarget => "InvocationTargetError"
  | .value => "ValueError"
  | .type => "TypeError"
  | .overflow => "OverflowError"
  | .arithmetic => "ArithmeticError"
  | .zeroDivision => "ZeroDivisionError"
  | .lookup => "LookupError"
  | .index => "IndexError"
  | .key => "KeyError"
  | .attribute => "AttributeError"
  | .runtime => "RuntimeError"
  | .assertion => "AssertionError"
  | .os => "OSError"
  | .permission => "PermissionError"
  | .fileNotFound => "FileNotFoundError"
  | .isADirectory => "IsADirectoryError"
  | .import => "ImportError"
  | .moduleNotFound => "ModuleNotFoundError"
  | .stopIteration => "StopIteration"
  | .other n => n

/-- The kinds that are spelled by a constructor without a name of their own. -/
def named : List ErrorKind := [.base, .exception, .bridge, .signature, .typeResolution,
  .methodNotFound, .accessDenied, .argumentMismatch, .nullReceiver, .invocationTarget, .value,
  .type, .overflow, .arithmetic, .zeroDivision, .lookup, .index, .key, .attribute, .runtime,
  .assertion, .os, .permission, .fileNotFound, .isADirectory, .import, .moduleNotFound,
  .stopIteration]

def ofName (n : Text) : ErrorKind := (named.find? fun k => k.name = n).getD (.other n)

/-- The class and all classes it derives from, in the order of their resolution. -/
def ancestors : ErrorKind → List ErrorKind
  | .base => [.base]
  | .exception => [.exception, .base]
  | .bridge => [.bridge, .exception, .base]
  | .signature => [.signature, .bridge, .value, .exception, .base]
  | .typeResolution => [.typeResolution, .bridge, .exception, .base]
  | .methodNotFound => [.methodNotFound, .bridge, .exception, .base]
  | .accessDenied => [.accessDenied, .bridge, .exception, .base]
  | .argumentMismatch => [.argumentMismatch, .bridge, .exception, .base]
  | .nullReceiver => [.nullReceiver, .bridge, .exception, .base]
  | .invocationTarget => [.invocationTarget, .bridge, .exception, .base]
  | .overflow => [.overflow, .arithmetic, .exception, .base]
  | .zeroDivision => [.zeroDivision, .arithmetic, .exception, .base]
  | .index => [.index, .lookup, .exception, .base]
  | .key => [.key, .lookup, .exception, .base]
  | .permission => [.permission, .os, .exception, .base]
  | .fileNotFound => [.fileNotFound, .os, .exception, .base]
  | .isADirectory => [.isADirectory, .os, .exception, .base]
  | .moduleNotFound => [.moduleNotFound, .import, .exception, .base]
  | k => [k, .exception, .base]

/-- The failures of the bridge. -/
def ofBridge : List ErrorKind := [.bridge, .signature, .typeResolution, .methodNotFound,
  .accessDenied, .argumentMismatch, .nullReceiver, .invocationTarget]

/-- The name with its module, without one for the kinds of the host. -/
def qualifiedName (k : ErrorKind) : Text :=
  if k ∈ ofBridge then Text.concat ["reflector.core.errors.", k.name] else k.name

/-- The text of an error that was made from one argument: a missing key is quoted. -/
def describe (k : ErrorKind) (argument : Text) : Text :=
  if k = .key then argument.quoted else argument

end ErrorKind

/-! ## Errors of host code -/

/-- The operand order and wording of a refused operator. -/
inductive Operator where
  | add | multiply
  deriving DecidableEq

/-- Why a template cannot be filled. -/
inductive TemplateFault where
  | tooFewArguments
  | tooManyArguments
  | needsMapping
  | openKey
  | noKey (key : Text)
  | openField
  | widthTooBig
  | precisionTooBig
  | widthNotInteger
  | unknownLetter (letter : CodePoint) (index : Nat)
  | needsReal (letter : CodePoint) (type : Text)
  | needsInteger (letter : CodePoint) (type : Text)
  | needsFloat (type : Text)
  | needsCharacter
  | characterRange
  deriving DecidableEq

/-- Why a file cannot be opened or read. -/
inductive FileFault where
  | absent
  | isFolder
  /-- There is something at the place already. -/
  | taken
  | notAFolder
  | nameTooLong
  deriving DecidableEq

/-- Why host code fails. -/
inductive HostError where
  | raised (kind : ErrorKind) (message : Text)
  | longOverflow
  | doubleOverflow
  | sizeOverflow
  | characterOverflow
  | outOfBounds (value : Int) (type : Text)
  | notOneCharacter (length : Nat)
  | notACharacter (type : Text)
  | notACodePoint
  | badInteger (radix : Nat) (quoted : Text)
  | tooManyDigits (digits : Nat)
  | badReal (quoted : Text)
  | notAnInteger (type : Text)
  | notAReal (type : Text)
  | nanToInteger
  | infinityToInteger
  | noIndex (type : Text)
  | noLength (type : Text)
  | noAttribute (type name : Text)
  | notIterable (type : Text)
  | notAContainer (type : Text)
  | unhashable (type : Text)
  | operands (op : Operator) (left right : Text)
  | concatenate (sequence other : Text)
  | concatenateBytes (sequence other : Text)
  | repeatBy (type : Text)
  | ambiguousTruth (empty : Bool)
  /-- Two shapes of which neither can be stretched to the other. -/
  | shapes (left right : List Nat)
  /-- Rows of different shapes, below the shape that they share. -/
  | ragged (shape : List Nat)
  | tooDeep
  /-- Elements, as they are named, that an operation on arrays is not made for. -/
  | noLoop (operation left right : Text)
  | scalarIndex
  | needsText (type : Text)
  | needsBytes (type : Text)
  | needsBytesOrInteger (type : Text)
  | byteRange
  | needsTextBefore (type : Text)
  | needsTextEnds (member type : Text)
  | needsTextInTuple (member type : Text)
  | needsBytesEnds (member type : Text)
  | badStart
  | indexOutside (index : Int) (length : Nat)
  | rangeOutside (first last : Int) (length : Nat)
  | notInList (quoted : Text)
  | popFromEmpty
  | popOutside
  | nullArgument (member : Text)
  | inputText (text : Text)
  | inputRange (text : Text)
  | radixRange (radix : Int)
  | negativeCapacity (capacity : Int)
  | missingArguments (function : Text) (names : List Text)
  | tooManyArguments (function : Text) (least most given : Nat)
  | atMost (function : Text) (most given : Nat)
  | atMostGiven (function : Text) (most given : Nat)
  | takesNone (function : Text)
  | notCallable (type : Text)
  | wrongReceiver (member type actual : Text)
  | emptyModule
  | noModule (name : Text) (notPackage : Option Text)
  | noPackage (name : Text)
  | registerRead
  | registerWrite
  | argumentCount (signature : Text) (expected given : Nat)
  | unexpectedArgument (function name : Text)
  | severalValues (function name : Text)
  | notComparable (operator left right : Text)
  | noItemAssignment (type : Text)
  /-- An index that is no integer, of a list or of bytes as they are named. -/
  | sequenceIndex (sequence type : Text)
  | arrayIndex
  | notSubscriptable (type : Text)
  | template (fault : TemplateFault)
  | file (fault : FileFault) (path : Text)
  | noConfiguration (path : Text)
  | badDocument
  | encoding (fault : EncodingFault)
  | unknownLevel (spelling : Text)
  | notALevel (quoted : Text)
  | reservedAttribute (name : Text)
  | noInstant
  | instantRange
  | instantPlatform
  | yearRange (year : Int)
  /-- An integer with more digits than are written. -/
  | numeralTooLong
  /-- An error whose own text cannot be made, and why. -/
  | unprintable (kind : ErrorKind) (reason : HostError)
  deriving DecidableEq

/-- Names as they are listed in a message: `'a'`, `'a' and 'b'`, `'a', 'b', and 'c'`. -/
def listNames (names : List Text) : Text :=
  let quoted := names.map fun n => Text.concat ["'", n, "'"]
  match quoted.reverse with
  | [] => []
  | [a] => a
  | [b, a] => Text.concat [a, " and ", b]
  | last :: rest => Text.concat [Text.join ", " rest.reverse, ", and ", last]

/-- The extents of a shape in parentheses: `()`, `(2,)`, `(2,3)`. -/
def shapeText (separator : Text) : List Nat → Text
  | [n] => Text.concat ["(", Text.ofNat n, ",)"]
  | s => Text.concat ["(", Text.join separator (s.map Text.ofNat), ")"]

def plural (n : Nat) (word : Text) : Text := if n = 1 then word else Text.concat [word, "s"]

namespace TemplateFault

def kind : TemplateFault → ErrorKind
  | .openKey | .openField | .widthTooBig | .precisionTooBig | .unknownLetter .. => .value
  | .noKey _ => .key
  | .characterRange => .overflow
  | _ => .type

open Text in
def message : TemplateFault → Text
  | .tooFewArguments => "not enough arguments for format string"
  | .tooManyArguments => "not all arguments converted during string formatting"
  | .needsMapping => "format requires a mapping"
  | .openKey => "incomplete format key"
  | .noKey k => quoted k
  | .openField => "incomplete format"
  | .widthTooBig => "width too big"
  | .precisionTooBig => "precision too big"
  | .widthNotInteger => "* wants int"
  | .unknownLetter c i => concat
    ["unsupported format character '", if 31 ≤ c.val ∧ c.val < 127 then [c] else "?", "' (0x",
      numeral 16 c.val, ") at index ", ofNat i]
  | .needsReal c t => concat ["%", [c], " format: a real number is required, not ", t]
  | .needsInteger c t => concat ["%", [c], " format: an integer is required, not ", t]
  | .needsFloat t => concat ["must be real number, not ", t]
  | .needsCharacter => "%c requires int or char"
  | .characterRange => "%c arg not in range(0x110000)"

end TemplateFault

namespace FileFault

def kind : FileFault → ErrorKind
  | .absent => .fileNotFound
  | .isFolder => .isADirectory
  | .taken => .other "FileExistsError"
  | .notAFolder => .other "NotADirectoryError"
  | .nameTooLong => .other "OSError"

def message : FileFault → Text
  | .absent => "[Errno 2] No such file or directory"
  | .isFolder => "[Errno 21] Is a directory"
  | .taken => "[Errno 17] File exists"
  | .notAFolder => "[Errno 20] Not a directory"
  | .nameTooLong => "[Errno 36] File name too long"

end FileFault

namespace EncodingFault

def kind : EncodingFault → ErrorKind
  | .undecodable .. => .other "UnicodeDecodeError"
  | .unencodable .. => .other "UnicodeEncodeError"
  | .unknownEncoding _ | .notOfText _ | .unknownHandling _ => .lookup
  | .onlyForEncoding => .type
  | .indirect _ f => f.kind

/-- The places of `count` things, of which the first stands at `place`. -/
def places (thing : Text) (count place : Nat) : Text :=
  if count = 1 then Text.concat [thing, " in position ", Text.ofNat place]
  else Text.concat [thing, "s in position ", Text.ofNat place, "-", Text.ofNat (place + count - 1)]

open Text in
def message : EncodingFault → Text
  | .undecodable codec bs place reason =>
    let thing : Text := match bs with
      | [b] => concat ["byte 0x", hexPadded 2 b.toNat]
      | _ => "byte"
    concat ["'", codec, "' codec can't decode ", places thing bs.length place, ": ", reason]
  | .unencodable codec points place reason =>
    let thing : Text := match points with
      | [c] => concat ["character ", quoted [c]]
      | _ => "character"
    concat ["'", codec, "' codec can't encode ", places thing points.length place, ": ", reason]
  | .unknownEncoding n => concat ["unknown encoding: ", n]
  | .notOfText n => concat
    ["'", n.take 400, "' is not a text encoding; use codecs.decode() to handle arbitrary codecs"]
  | .unknownHandling n => concat ["unknown error handler name '", n.take 400, "'"]
  | .onlyForEncoding => "don't know how to handle UnicodeDecodeError in error callback"
  | .indirect n f => concat
    ["decoding with '", n, "' codec failed (", f.kind.name, ": ", f.message, ")"]

end EncodingFault

namespace HostError

def kind : HostError → ErrorKind
  | .raised k _ => k
  | .longOverflow | .doubleOverflow | .sizeOverflow | .characterOverflow | .outOfBounds ..
  | .infinityToInteger => .overflow
  | .notACodePoint | .badInteger .. | .tooManyDigits _ | .badReal _ | .nanToInteger
  | .byteRange | .ambiguousTruth _ | .shapes .. | .ragged _ | .tooDeep | .notInList _
  | .inputText _ | .inputRange _ | .radixRange _ | .negativeCapacity _ | .emptyModule
  | .argumentCount .. | .numeralTooLong => .value
  | .noAttribute .. => .attribute
  | .arrayIndex | .indexOutside .. | .rangeOutside .. | .popFromEmpty | .popOutside | .registerRead
  | .registerWrite => .index
  | .noLoop .. => .other "UFuncTypeError"
  | .noModule .. => .moduleNotFound
  | .template f => f.kind
  | .file f _ => f.kind
  | .noConfiguration _ => .fileNotFound
  | .badDocument => .other "TOMLDecodeError"
  | .encoding f => f.kind
  | .unknownLevel _ | .noInstant | .yearRange _ => .value
  | .reservedAttribute _ => .key
  | .instantRange => .overflow
  | .instantPlatform => .os
  | .unprintable k _ => k
  | _ => .type

open Text in
def message : HostError → Text
  | .raised _ m => m
  | .longOverflow => "Python int too large to convert to C long"
  | .doubleOverflow => "int too large to convert to float"
  | .sizeOverflow => "Python int too large to convert to C ssize_t"
  | .characterOverflow => "Python int too large to convert to C int"
  | .outOfBounds n t => concat ["Python integer ", ofInt n, " out of bounds for ", t]
  | .notOneCharacter n =>
    concat ["ord() expected a character, but string of length ", ofNat n, " found"]
  | .notACharacter t => concat ["ord() expected string of length 1, but ", t, " found"]
  | .notACodePoint => "chr() arg not in range(0x110000)"
  | .badInteger r q =>
    concat ["invalid literal for int() with base ", ofNat r, ": ", q.take 200]
  | .tooManyDigits n => concat
    ["Exceeds the limit (4300 digits) for integer string conversion: value has ", ofNat n,
      " digits; use sys.set_int_max_str_digits() to increase the limit"]
  | .badReal q => concat ["could not convert string to float: ", q]
  | .notAnInteger t => concat
    ["int() argument must be a string, a bytes-like object or a real number, not '", t, "'"]
  | .notAReal t => concat ["float() argument must be a string or a real number, not '", t, "'"]
  | .nanToInteger => "cannot convert float NaN to integer"
  | .infinityToInteger => "cannot convert float infinity to integer"
  | .noIndex t => concat ["'", t, "' object cannot be interpreted as an integer"]
  | .noLength t => concat ["object of type '", t, "' has no len()"]
  | .noAttribute t n => concat ["'", t, "' object has no attribute '", n, "'"]
  | .notIterable t => concat ["'", t, "' object is not iterable"]
  | .notAContainer t => concat ["argument of type '", t, "' is not iterable"]
  | .unhashable t => concat ["unhashable type: '", t, "'"]
  | .operands op a b => concat
    ["unsupported operand type(s) for ", if op = .add then "+" else "*", ": '", a, "' and '", b,
      "'"]
  | .concatenate s t => concat
    ["can only concatenate ", s, " (not \"", t, "\") to ", s]
  | .concatenateBytes s t => concat ["can't concat ", t, " to ", s]
  | .repeatBy t => concat ["can't multiply sequence by non-int of type '", t, "'"]
  | .ambiguousTruth true => concat ["The truth value of an empty array is ambiguous. Use ",
      "`array.size > 0` to check that an array is not empty."]
  | .ambiguousTruth false =>
    "The truth value of an array with more than one element is ambiguous. Use a.any() or a.all()"
  | .shapes a b => concat
    ["operands could not be broadcast together with shapes ", shapeText "," a, " ",
      shapeText "," b, " "]
  | .ragged s => concat
    ["setting an array element with a sequence. The requested array has an inhomogeneous shape ",
      "after ", ofNat s.length, " dimensions. The detected shape was ", shapeText ", " s,
      " + inhomogeneous part."]
  | .tooDeep => concat ["setting an array element with a sequence. The requested array would ",
      "exceed the maximum number of dimension of 64."]
  | .noLoop op a b => concat
    ["ufunc '", op, "' did not contain a loop with signature matching types (dtype('", a,
      "'), dtype('", b, "')) -> None"]
  | .scalarIndex => "only integer scalar arrays can be converted to a scalar index"
  | .needsText t => concat ["must be str, not ", t]
  | .needsBytes t => concat ["a bytes-like object is required, not '", t, "'"]
  | .needsBytesOrInteger t =>
    concat ["argument should be integer or bytes-like object, not '", t, "'"]
  | .byteRange => "byte must be in range(0, 256)"
  | .needsTextBefore t => concat ["'in <string>' requires string as left operand, not ", t]
  | .needsTextEnds m t => concat [m, " first arg must be str or a tuple of str, not ", t]
  | .needsTextInTuple m t => concat ["tuple for ", m, " must only contain str, not ", t]
  | .needsBytesEnds m t => concat [m, " first arg must be bytes or a tuple of bytes, not ", t]
  | .badStart => "slice indices must be integers or have an __index__ method"
  | .indexOutside i n => concat ["index ", ofInt i, ", length ", ofNat n]
  | .rangeOutside b e n =>
    concat ["begin ", ofInt b, ", end ", ofInt e, ", length ", ofNat n]
  | .notInList q => concat [q, " is not in list"]
  | .popFromEmpty => "pop from empty list"
  | .popOutside => "pop index out of range"
  | .nullArgument m => concat [m, "(null)"]
  | .inputText t => concat ["For input string: \"", t, "\""]
  | .inputRange t => concat ["For input string: \"", t, "\" (out of range)"]
  | .radixRange r => concat ["radix ", ofInt r, " out of range"]
  | .negativeCapacity n => concat ["negative capacity ", ofInt n]
  | .missingArguments f names => concat
    [f, "() missing ", ofNat names.length, " required positional ",
      plural names.length "argument", ": ", listNames names]
  | .tooManyArguments f least most given => concat
    [f, "() takes ", if least = most then ofNat most
      else concat ["from ", ofNat least, " to ", ofNat most], " positional ",
      plural most "argument", " but ", ofNat given, if given = 1 then " was" else " were",
      " given"]
  | .atMost f most given => concat
    [f, " expected at most ", ofNat most, " ", plural most "argument", ", got ", ofNat given]
  | .atMostGiven f most given => concat
    [f, "() takes at most ", ofNat most, " ", plural most "argument", " (", ofNat given,
      " given)"]
  | .takesNone f => concat [f, "() takes no arguments"]
  | .notCallable t => concat ["'", t, "' object is not callable"]
  | .wrongReceiver m t a => concat
    ["descriptor '", m, "' for '", t, "' objects doesn't apply to a '", a, "' object"]
  | .emptyModule => "Empty module name"
  | .noModule n none => concat ["No module named '", n, "'"]
  | .noModule n (some p) => concat
    ["No module named '", n, "'; '", p, "' is not a package"]
  | .noPackage n => concat
    ["the 'package' argument is required to perform a relative import for ", quoted n]
  | .registerRead => "list index out of range"
  | .registerWrite => "list assignment index out of range"
  | .argumentCount s expected given => concat
    [s, " takes ", ofNat expected, " argument(s), ", ofNat given, " given"]
  | .unexpectedArgument f n =>
    concat [f, "() got an unexpected keyword argument '", n, "'"]
  | .severalValues f n => concat [f, "() got multiple values for argument '", n, "'"]
  | .notComparable op a b => concat
    ["'", op, "' not supported between instances of '", a, "' and '", b, "'"]
  | .noItemAssignment t => concat ["'", t, "' object does not support item assignment"]
  | .sequenceIndex s t => concat [s, " indices must be integers or slices, not ", t]
  | .arrayIndex => concat ["only integers, slices (`:`), ellipsis (`...`), ",
      "numpy.newaxis (`None`) and integer or boolean arrays are valid indices"]
  | .notSubscriptable t => concat ["'", t, "' object is not subscriptable"]
  | .template f => f.message
  | .file f p => concat [f.message, ": ", quoted p]
  | .noConfiguration p => concat ["Configuration file not found: ", p]
  | .badDocument => "Invalid document"
  | .encoding f => f.message
  | .unknownLevel l => concat ["Unknown level: ", quoted l]
  | .notALevel q => concat ["Level not an integer or a valid string: ", q]
  | .reservedAttribute n =>
    quoted (concat ["Attempt to overwrite ", quoted n, " in LogRecord"])
  | .noInstant => "Invalid value NaN (not a number)"
  | .instantRange => "timestamp out of range for platform time_t"
  | .instantPlatform => "[Errno 75] Value too large for defined data type"
  | .yearRange y => concat ["year ", ofInt y, " is out of range"]
  | .numeralTooLong => concat ["Exceeds the limit (4300 digits) for integer string conversion; ",
      "use sys.set_int_max_str_digits() to increase the limit"]
  | .unprintable .. => "<exception str() failed>"

/-- Why the text of an error cannot be made. -/
def unprintable? : HostError → Option HostError
  | .unprintable _ reason => some reason
  | _ => none

/-- The text of an error, which may fail to be made.  `message` stands for it in a trace. -/
def text (e : HostError) : Except HostError Text :=
  match e.unprintable? with
  | some reason => .error reason
  | none => .ok e.message

end HostError

/-! ## Numerals in texts -/

/-- The decimal numeral of an integer, unless it is too long to be written. -/
def decimalText (n : Int) : Except HostError Text :=
  if isWritable n then .ok (Text.ofInt n) else .error .numeralTooLong

theorem decimalText_pow_digitLimit : decimalText (10 ^ digitLimit) = .error .numeralTooLong := by
  rw [decimalText, isWritable_pow_digitLimit]
  rfl

/-- An error whose message cites integers: one that is too long to be written is an error before
it. -/
def HostError.citing (ns : List Int) (e : HostError) : HostError :=
  if ns.all isWritable then e else .numeralTooLong

theorem HostError.citing_of_writable {n : Int} (hn : isWritable n = true) (e : HostError) :
    citing [n] e = e := by
  rw [citing, List.all_cons, hn]
  rfl

/-! ## Errors of the bridge -/

/-- Why a class cannot be resolved. -/
inductive ResolutionError where
  | classNotFound (name : Text)
  | notAClass (name : Text)
  | cannotLoad (name : Text) (cause : HostError)
  | unknownReceiver (label : Text)
  deriving DecidableEq

/-- Why no member is selected. -/
inductive LookupError where
  | noStaticMethod (label : Text)
  | notStatic (label : Text)
  | noMethod (name type owner : Text)
  | noOverload (label : Text) (types : List Text)
  | ambiguous (label : Text)
  | arity (label : Text) (given : Nat) (reason : Text)
  deriving DecidableEq

/-- Why access is refused. -/
inductive AccessError where
  | deniedType (name : Text)
  | privateMember (label : Text)
  | privatePath (name : Text)
  | outsideRoots (name home : Text)
  deriving DecidableEq

/-- Why an argument does not fit its parameter. -/
inductive MismatchError where
  | castLength (length : Nat) (kind : Kind)
  | castType (type : Text) (kind : Kind)
  | castValue (quoted : Text) (kind : Kind) (cause : HostError)
  | noReceiver
  | noRegister (position : Nat) (descriptor : Text) (register width count : Nat)
  | unknownParameter (position : Int) (descriptor : Text)
  | unknownArgument (position : Int)
  | nullPrimitive (position : Int) (type : Text)
  | notAnArray (position : Int) (type : Text)
  | conversion (position : Int) (cause : HostError)
  | notAssignable (position : Int) (supplied declared : Text)
  deriving DecidableEq

/-- A failure of the bridge; `target` wraps what the host member raised. -/
inductive BridgeError where
  | signature (cause : SignatureError)
  | resolution (cause : ResolutionError)
  | lookup (cause : LookupError)
  | access (cause : AccessError)
  | mismatch (cause : MismatchError)
  | nullReceiver (label : Text)
  | target (label : Text) (cause : HostError)
  deriving DecidableEq

open Text

def ResolutionError.message : ResolutionError → Text
  | .classNotFound n => concat ["Class not found: ", n]
  | .notAClass n => concat [n, " is not a class"]
  | .cannotLoad n e => concat ["Cannot load ", n, ": ", e.message]
  | .unknownReceiver l => concat ["Receiver of ", l, " is unknown"]

def LookupError.message : LookupError → Text
  | .noStaticMethod l => concat ["No static method ", l]
  | .notStatic l => concat [l, " is not static"]
  | .noMethod n t o => concat ["No method ", n, " on ", t, " (", o, ")"]
  | .noOverload l ts => concat ["No overload of ", l, " accepts (", join ", " ts, ")"]
  | .ambiguous l => concat ["Ambiguous overload for ", l]
  | .arity l n r => concat ["No variant of ", l, " accepts ", ofNat n, " argument(s): ", r]

def AccessError.message : AccessError → Text
  | .deniedType n => concat ["Reflection on ", n, " is denied"]
  | .privateMember l => concat [l, " is not accessible"]
  | .privatePath n => concat [n, " names a private attribute"]
  | .outsideRoots n h => concat [n, " is defined in ", h, ", outside the import roots"]

def MismatchError.message : MismatchError → Text
  | .castLength n k => concat ["Cannot cast string of length ", ofNat n, " to ", k.label]
  | .castType t k => concat ["Cannot cast ", t, " to ", k.label]
  | .castValue q k e => concat ["Cannot cast ", q, " to ", k.label, ": ", e.message]
  | .noReceiver => "Instance call without a receiver register p0"
  | .noRegister i d r w n => concat
    ["Parameter ", ofNat i, " (", d, ") needs register p", ofNat r,
      if w = 2 then concat ["-p", ofNat (r + 1)] else [], ", frame has ", ofNat n]
  | .unknownParameter i d => concat ["Parameter ", ofInt i, " (", d, ") is unknown"]
  | .unknownArgument i => concat ["Argument ", ofInt i, " is unknown"]
  | .nullPrimitive i t => concat ["Argument ", ofInt i, ": null passed for primitive ", t]
  | .notAnArray i t => concat ["Argument ", ofInt i, ": ", t, " is not an array"]
  | .conversion i e => concat ["Argument ", ofInt i, ": ", e.message]
  | .notAssignable i s d => concat ["Argument ", ofInt i, ": ", s, " is not assignable to ", d]

namespace BridgeError

def kind : BridgeError → ErrorKind
  | .signature _ => .signature
  | .resolution _ => .typeResolution
  | .lookup _ => .methodNotFound
  | .access _ => .accessDenied
  | .mismatch _ => .argumentMismatch
  | .nullReceiver _ => .nullReceiver
  | .target .. => .invocationTarget

def message : BridgeError → Text
  | .signature e => e.message
  | .resolution e => e.message
  | .lookup e => e.message
  | .access e => e.message
  | .mismatch e => e.message
  | .nullReceiver l => concat ["Null receiver for ", l]
  | .target l e => concat [l, " raised ", e.kind.name, ": ", e.message]

/-- The class of the error that this one was made from. -/
def cause? : BridgeError → Option ErrorKind
  | .resolution (.cannotLoad _ e) => some e.kind
  | .lookup (.arity ..) => some .type
  | .mismatch (.castValue _ _ e) => some e.kind
  | .mismatch (.conversion _ e) => some e.kind
  | .target _ e => some e.kind
  | _ => none

end BridgeError

/-- Anything that can go wrong: a failure of the bridge, refused fields, or an error of host code
outside any member. -/
inductive Failure where
  | bridge (e : BridgeError)
  | refused (errors : List FieldError)
  | host (e : HostError)
  deriving DecidableEq

/-- Why an argument is not passed: it does not fit, or host code that looks at it fails. -/
inductive ArgumentError where
  | mismatch (e : MismatchError)
  | host (e : HostError)
  deriving DecidableEq

namespace ArgumentError

def toFailure : ArgumentError → Failure
  | .mismatch e => .bridge (.mismatch e)
  | .host e => .host e

/-- The error as host code raises it that passes arguments itself. -/
def toHostError : ArgumentError → HostError
  | .mismatch e => .raised .argumentMismatch e.message
  | .host e => e

end ArgumentError

/-- A failure of the bridge, also one that host code raises. -/
def Failure.isOfBridge : Failure → Bool
  | .bridge _ => true
  | .refused _ => false
  | .host e => ErrorKind.ofBridge.elem e.kind

/-- Why the text of a failure cannot be made. -/
def Failure.unprintable? : Failure → Option HostError
  | .host e => e.unprintable?
  | _ => none

/-- The text of a failure, which may fail to be made. -/
def Failure.text : Failure → Except HostError Text
  | .bridge e => .ok e.message
  | .refused _ => .ok []
  | .host e => e.text

/-- A failure of the bridge whose message has the text of an error in it: where that cannot be made,
the reason is the failure. -/
def Failure.wrapping (e : HostError) (wrapped : BridgeError) : Failure :=
  match e.unprintable? with
  | some reason => .host reason
  | none => .bridge wrapped

def SignatureFailure.toFailure : SignatureFailure → Failure
  | .malformed e => .bridge (.signature e)
  | .refused es => .refused es

end HostCall
