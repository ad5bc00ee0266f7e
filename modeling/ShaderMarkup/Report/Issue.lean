import ShaderMarkup.Number.Basic
import ShaderMarkup.Resource.Kind

/-!
# Issues

Everything that can be wrong with a shader's text, one constructor per cause.  `Issue.kind` sorts
the causes and `Issue.message` words them; nothing else in the library writes a message about the
text of a shader.
-/

namespace ShaderMarkup

/-- The sorts of issues. -/
inductive IssueKind where
  | syntactic
  | validation
  | decoratorOrder
  | dimensions
  | category
  | unknownWildcard
  | evaluation
  | kindConflict
deriving DecidableEq

/-- What stops the reading of an expression; columns count from one in the current line. -/
inductive SyntaxProblem where
  | character (c : Char) (column : Nat)
  | token (written : Text) (column : Nat)
  | ended
deriving DecidableEq

/-- The causes for which a shader, or a part of it, is refused. -/
inductive Issue where
  -- expressions
  | emptySegment (expression : Text)
  | malformed (segment : Text) (problem : SyntaxProblem)
  | unknownWildcard (name : Text)
  | indexNotInteger (written : Text)
  | tooManyIndices (name : Text)
  | notSquare (name : Text) (width : Nat)
  | cellOutOfRange (name : Text) (row column : Nat)
  | indexOutOfRange (name : Text) (index : Nat)
  | swizzleOutOfRange (name : Text) (letter : Char) (width : Nat)
  | widthsDiffer (segment : Text) (widths : List Nat)
  | divisionByZero (segment : Text)
  | numericOverflow (segment : Text)
  | notFinite (segment : Text) (value : Number)
  | tooManyComponents (expression : Text) (count : Nat)
  -- all declarations
  | severalCreators (kinds : List ResourceKind)
  | mismatchedBrackets (opening closing : Char) (opened closed : Nat)
  | bindingBeforeGroup
  | slotNotNatural (decorator argument : Text)
  | notPositive (what : Text) (value : Number)
  | notInteger (what : Text) (value : Number)
  | notSingle (what : Text) (values : List Number)
  | missingDecorator (name : Text)
  -- types
  | unknownScalar (name : Text)
  | unknownType (type : Text)
  -- textures
  | noTextureVariable
  | invalidTextureType (base : Text)
  | tooManyDimensions (base : Text) (expected : Nat) (values : List Number)
  | tooFewDimensions (base : Text) (expected : Nat) (values : List Number)
  | invalidTextureFormat (format : Text)
  -- buffers
  | noStorageQualifier
  | noStorageVariable
  | noBackingType
  | emptyBackingStruct
  | invalidBackingType (type : Text)
  | missingStride
  | strideMismatch (size stride : Int)
  -- uniforms
  | noUniformVariable
  | structNotFound (name : Text)
  | structEmpty (name : Text)
  | defaultMissing (field : Text)
  | defaultEmpty (field : Text)
  | unsupportedField (field type : Text)
  | fieldWidth (field type : Text) (expected given : Nat)
  | fieldValue (field type : Text) (value : Number)
  -- samplers
  | noSamplerVariable
  | unknownParameter (name : Text)
  | repeatedParameter (name : Text)
  | emptyParameter (name : Text)
  | parameterChoice (name value : Text) (allowed : List Text)
  | parameterWidth (name : Text) (given : Nat)
  | parameterRange (name : Text) (least most : Int) (value : Number)
  | lodOrder (least most : Number)
  -- references
  | missingTarget
  | noVariable
  | malformedTarget
  | unknownCategory (type : Text)
  -- entry points
  | computeAndFragment
  | missingThreadCount
  | tooManyThreadCounts (given : Nat)
  | workgroupDimensions (given dimensions : Nat)
  | canvasDimensions (values : List Number)
  | canvasTooLarge (side : Text) (most given : Int)
  | canvasParameters (cause : Issue)
  | noViewport
  | malformedFragmentTarget (argument : Text)
  | malformedResolve (argument : Text)
  | resolveWithCanvas
  | targetInUse (name : Text)

/-- The sort of an issue. -/
def Issue.kind : Issue → IssueKind
  | .emptySegment _ | .malformed _ _ | .mismatchedBrackets _ _ _ _ => .syntactic
  | .unknownWildcard _ => .unknownWildcard
  | .indexNotInteger _ | .tooManyIndices _ | .notSquare _ _ | .cellOutOfRange _ _ _
  | .indexOutOfRange _ _ | .swizzleOutOfRange _ _ _ | .widthsDiffer _ _ | .divisionByZero _
  | .numericOverflow _ | .notFinite _ _ | .tooManyComponents _ _ => .evaluation
  | .bindingBeforeGroup => .decoratorOrder
  | .tooManyDimensions _ _ _ | .tooFewDimensions _ _ _ => .dimensions
  | .unknownCategory _ => .category
  | .computeAndFragment => .kindConflict
  | .canvasParameters cause => cause.kind
  | _ => .validation

/-! ## Wording -/

/-- The texts of numbers, separated by commas. -/
def numberListing (values : List Number) : Text :=
  Text.listing (values.map Number.text)

/-- The wording of a syntax problem. -/
def SyntaxProblem.message : SyntaxProblem → Text
  | .character c column =>
      "unexpected character '".toList ++ [c] ++ "' at column ".toList ++ Text.ofNat column
  | .token written column =>
      "unexpected '".toList ++ written ++ "' at column ".toList ++ Text.ofNat column
  | .ended => "unexpected end of expression (unbalanced parentheses?)".toList

/-- The wording of an issue. -/
def Issue.message : Issue → Text
  | .emptySegment expression =>
      "Empty expression segment in '".toList ++ expression ++ "'".toList
  | .malformed segment problem =>
      "Invalid expression '".toList ++ segment ++ "': ".toList ++ problem.message
  | .unknownWildcard name => "Unknown wildcard: ".toList ++ name
  | .indexNotInteger written =>
      "Index accessor must be an integer, got [".toList ++ written ++ "]".toList
  | .tooManyIndices name => "Too many index accessors on wildcard '".toList ++ name ++ "'".toList
  | .notSquare name width =>
      "Wildcard '".toList ++ name ++ "' with ".toList ++ Text.ofNat width
        ++ " components is not a square matrix".toList
  | .cellOutOfRange name row column =>
      "Index [".toList ++ Text.ofNat row ++ "][".toList ++ Text.ofNat column
        ++ "] out of range for '".toList ++ name ++ "'".toList
  | .indexOutOfRange name index =>
      "Index [".toList ++ Text.ofNat index ++ "] out of range for '".toList ++ name ++ "'".toList
  | .swizzleOutOfRange name letter width =>
      "Swizzle '.".toList ++ [letter] ++ "' out of range for '".toList ++ name
        ++ "' with ".toList ++ Text.ofNat width ++ " components".toList
  | .widthsDiffer segment widths =>
      "Wildcards in '".toList ++ segment ++ "' have different component counts: [".toList
        ++ Text.listing (widths.map Text.ofNat) ++ "]".toList
  | .divisionByZero segment => "Division by zero in '".toList ++ segment ++ "'".toList
  | .numericOverflow segment => "Numeric overflow in '".toList ++ segment ++ "'".toList
  | .notFinite segment value =>
      "Expression '".toList ++ segment ++ "' resulted in ".toList ++ value.text
  | .tooManyComponents expression count =>
      "Expression '".toList ++ expression ++ "' yields ".toList ++ Text.ofNat count
        ++ " components, at most 4 are allowed".toList
  | .severalCreators kinds =>
      "Declaration has more than one resource decorator: ".toList
        ++ Text.listing (kinds.map fun kind => '@' :: kind.decoratorName)
  | .mismatchedBrackets opening closing opened closed =>
      "Mismatched '".toList ++ [opening, closing] ++ "': found ".toList ++ Text.ofNat opened
        ++ " opening and ".toList ++ Text.ofNat closed ++ " closing".toList
  | .bindingBeforeGroup => "When both are present, @group must come before @binding".toList
  | .slotNotNatural decorator argument =>
      '@' :: decorator ++ " expects a non-negative integer literal, got '".toList ++ argument
        ++ "'".toList
  | .notPositive what value => what ++ " must be greater than 0, got ".toList ++ value.text
  | .notInteger what value => what ++ " must be an integer, got ".toList ++ value.text
  | .notSingle what values =>
      what ++ " must be a single value, but got ".toList ++ Text.ofNat values.length
        ++ " values: [".toList ++ numberListing values ++ "]".toList
  | .missingDecorator name => "Missing @".toList ++ name ++ " decorator".toList
  | .unknownScalar name => "Unknown scalar type: ".toList ++ name
  | .unknownType type => "Unknown type: ".toList ++ type
  | .noTextureVariable =>
      "Missing or malformed variable declaration 'var <name>: texture_*'".toList
  | .invalidTextureType base => "Invalid texture type: ".toList ++ base
  | .tooManyDimensions base expected values =>
      "Incorrect number of dimensions for ".toList ++ base ++ ": expected ".toList
        ++ Text.ofNat expected ++ " but got ".toList ++ Text.ofNat values.length
        ++ " (".toList ++ numberListing values ++ ")".toList
  | .tooFewDimensions base expected values =>
      "Insufficient dimensions for ".toList ++ base ++ ": expected ".toList
        ++ Text.ofNat expected ++ " values (width, height, array_size) but got ".toList
        ++ Text.ofNat values.length ++ " (".toList ++ numberListing values ++ ")".toList
  | .invalidTextureFormat format => "Invalid texture format: '".toList ++ format ++ "'".toList
  | .noStorageQualifier =>
      ("Invalid or missing storage qualifier. ".toList
        ++ "Must be var<storage, read> or var<storage, read_write>".toList)
  | .noStorageVariable => "Missing or invalid variable declaration".toList
  | .noBackingType => "Invalid type declaration. Must be either array<T> or a struct".toList
  | .emptyBackingStruct => "Struct must contain at least one field".toList
  | .invalidBackingType type => "Invalid storage buffer type: ".toList ++ type
  | .missingStride => "Structured buffers need a stride".toList
  | .strideMismatch size stride =>
      "Buffer size (".toList ++ Text.ofInt size ++ ") must be a multiple of stride (".toList
        ++ Text.ofInt stride ++ ")".toList
  | .noUniformVariable =>
      ("Invalid or missing uniform variable. ".toList
        ++ "Must be var<uniform> <name>: <StructType>".toList)
  | .structNotFound name => "Could not find struct definition for ".toList ++ name
  | .structEmpty name => "Struct ".toList ++ name ++ " has no fields".toList
  | .defaultMissing field => "Missing default value for field '".toList ++ field ++ "'".toList
  | .defaultEmpty field => '@' :: field ++ " needs a default value".toList
  | .unsupportedField field type =>
      "Unsupported uniform type for field '".toList ++ field ++ "': ".toList ++ type
  | .fieldWidth field type expected given =>
      "Invalid number of values for field '".toList ++ field ++ "' of type ".toList ++ type
        ++ ": expected ".toList ++ Text.ofNat expected ++ " components, got ".toList
        ++ Text.ofNat given
  | .fieldValue field type value =>
      "Field '".toList ++ field ++ "' of type ".toList ++ type ++ " cannot hold ".toList
        ++ value.text
  | .noSamplerVariable => "Invalid or missing sampler variable 'var <name>: sampler'".toList
  | .unknownParameter name => "Unknown sampler parameter: @".toList ++ name
  | .repeatedParameter name => "Duplicate sampler parameter: @".toList ++ name
  | .emptyParameter name => '@' :: name ++ " needs a value".toList
  | .parameterChoice name value allowed =>
      "Invalid ".toList ++ name ++ " value: \"".toList ++ value ++ "\". Must be one of: ".toList
        ++ Text.listing allowed
  | .parameterWidth name given =>
      name ++ " must resolve to a single number, got ".toList ++ Text.ofNat given
        ++ " values".toList
  | .parameterRange name least most value =>
      name ++ " must be between ".toList ++ Text.ofInt least ++ " and ".toList ++ Text.ofInt most
        ++ ", got ".toList ++ value.text
  | .lodOrder least most =>
      "lodMinClamp (".toList ++ least.text ++ ") must not exceed lodMaxClamp (".toList
        ++ most.text ++ ")".toList
  | .missingTarget => "Missing reference parameter".toList
  | .noVariable => "Invalid variable declaration syntax".toList
  | .malformedTarget =>
      "Invalid reference format. Must be in the form 'node_name.resource_name'".toList
  | .unknownCategory type =>
      "Unable to determine resource category for type: ".toList ++ type
  | .computeAndFragment => "Shader cannot be both compute and fragment".toList
  | .missingThreadCount =>
      "Compute shader must have @compute decorator with workgroup count".toList
  | .tooManyThreadCounts given =>
      "Invalid number of workgroup count parameters: ".toList ++ Text.ofNat given
  | .workgroupDimensions given dimensions =>
      "@workgroup_size has more dimensions (".toList ++ Text.ofNat given
        ++ "D) than @compute (".toList ++ Text.ofNat dimensions ++ "D)".toList
  | .canvasDimensions values =>
      "@canvas requires exactly 2 dimensions (width, height), got ".toList
        ++ Text.ofNat values.length ++ " [".toList ++ numberListing values ++ "]".toList
  | .canvasTooLarge side most given =>
      side ++ " exceeds maximum allowed size (".toList ++ Text.ofInt most ++ "): ".toList
        ++ Text.ofInt given
  | .canvasParameters cause => "Invalid @canvas parameters: ".toList ++ cause.message
  | .noViewport => "@canvas without a size needs a viewport size provider".toList
  | .malformedFragmentTarget argument =>
      "@fragment decorator must specify a target texture or @canvas, got '".toList ++ argument
        ++ "'".toList
  | .malformedResolve argument =>
      "Invalid @resolve target: '".toList ++ argument ++ "'".toList
  | .resolveWithCanvas =>
      "Cannot specify @resolve target when using @canvas as fragment output".toList
  | .targetInUse name =>
      "Cannot render to texture '".toList ++ name
        ++ "' as it is used within the shader body".toList

end ShaderMarkup
