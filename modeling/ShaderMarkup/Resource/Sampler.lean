import ShaderMarkup.Resource.Context
import ShaderMarkup.Resource.Structure
import ShaderMarkup.Resource.Uniform
import ShaderMarkup.Source.Variable

/-!
# Sampler declarations

`@sampler(@magFilter(linear) @lodMaxClamp(4)) var name: sampler;`

A parameter is either a choice from a list of words or a number in a range, and may be given once.
-/

namespace ShaderMarkup

/-! ## Parameters -/

/-- The parameters that are chosen from a list of words. -/
inductive ChoiceParameter where
  | addressModeU
  | addressModeV
  | addressModeW
  | magFilter
  | minFilter
  | mipmapFilter
  | compare
deriving DecidableEq

/-- The parameters that are numbers in a range. -/
inductive RangeParameter where
  | lodMinClamp
  | lodMaxClamp
  | maxAnisotropy
deriving DecidableEq

/-- The parameters of a sampler. -/
inductive SamplerParameter where
  | choice (parameter : ChoiceParameter)
  | range (parameter : RangeParameter)
deriving DecidableEq

/-- The words for what a sampler does beyond the edge of a texture. -/
def addressModes : List Text :=
  ["repeat".toList, "mirror-repeat".toList, "clamp-to-edge".toList]

/-- The words for how a sampler goes between texels. -/
def filterModes : List Text :=
  ["nearest".toList, "linear".toList]

/-- The words for how a sampler compares depths. -/
def comparisons : List Text :=
  ["never".toList, "less".toList, "equal".toList, "less-equal".toList, "greater".toList,
    "not-equal".toList, "greater-equal".toList, "always".toList]

namespace ChoiceParameter

/-- The name of a parameter. -/
def name : ChoiceParameter → Text
  | .addressModeU => "addressModeU".toList
  | .addressModeV => "addressModeV".toList
  | .addressModeW => "addressModeW".toList
  | .magFilter => "magFilter".toList
  | .minFilter => "minFilter".toList
  | .mipmapFilter => "mipmapFilter".toList
  | .compare => "compare".toList

/-- All parameters that are choices. -/
def all : List ChoiceParameter :=
  [.addressModeU, .addressModeV, .addressModeW, .magFilter, .minFilter, .mipmapFilter, .compare]

/-- The words that a parameter is chosen from. -/
def allowed : ChoiceParameter → List Text
  | .addressModeU | .addressModeV | .addressModeW => addressModes
  | .magFilter | .minFilter | .mipmapFilter => filterModes
  | .compare => comparisons

/-- The word, if the parameter allows it. -/
def check (parameter : ChoiceParameter) (word : Text) : Check Text :=
  if Text.among parameter.allowed word then .ok word
  else refuse (.parameterChoice parameter.name word parameter.allowed)

end ChoiceParameter

namespace RangeParameter

/-- The name of a parameter. -/
def name : RangeParameter → Text
  | .lodMinClamp => "lodMinClamp".toList
  | .lodMaxClamp => "lodMaxClamp".toList
  | .maxAnisotropy => "maxAnisotropy".toList

/-- All parameters that are numbers. -/
def all : List RangeParameter :=
  [.lodMinClamp, .lodMaxClamp, .maxAnisotropy]

/-- The least value of a parameter. -/
def least : RangeParameter → Int
  | .lodMinClamp | .lodMaxClamp => 0
  | .maxAnisotropy => 1

/-- The greatest value of a parameter. -/
def most : RangeParameter → Int
  | .lodMinClamp | .lodMaxClamp => 32
  | .maxAnisotropy => 16

/-- The single number in its range that a parameter has to be. -/
def check (parameter : RangeParameter) : List Number → Check Number
  | [value] =>
      if Number.atMost (.int parameter.least) value && value.atMost (.int parameter.most) then
        .ok value
      else refuse (.parameterRange parameter.name parameter.least parameter.most value)
  | values => refuse (.parameterWidth parameter.name values.length)

end RangeParameter

namespace SamplerParameter

/-- The name of a parameter. -/
def name : SamplerParameter → Text
  | .choice parameter => parameter.name
  | .range parameter => parameter.name

/-- All parameters. -/
def all : List SamplerParameter :=
  ChoiceParameter.all.map .choice ++ RangeParameter.all.map .range

/-- The parameter of a name. -/
def ofName? (name : Text) : Option SamplerParameter :=
  all.find? fun parameter => parameter.name = name

/-- The word for the choice of that name, if it allows the word. -/
def checkWord (name word : Text) : Check Text :=
  match ofName? name with
  | some (.choice parameter) => parameter.check word
  | _ => giveUp (.noParameter name)

/-- The number for the range of that name, if it is a single one in the range. -/
def checkNumbers (name : Text) (values : List Number) : Check Number :=
  match ofName? name with
  | some (.range parameter) => parameter.check values
  | _ => giveUp (.noParameter name)

end SamplerParameter

/-- Parameters with their arguments, in the order in which they are given. -/
abbrev SamplerArguments := List (SamplerParameter × Text)

/-- Reads the parameters from decorators, each of which may occur once and needs an argument. -/
def samplerArguments : SamplerArguments → List Decorator → Check SamplerArguments
  | given, [] => .ok given
  | given, decorator :: rest =>
      match SamplerParameter.ofName? decorator.name with
      | none => refuse (.unknownParameter decorator.name)
      | some parameter =>
          if given.any fun entry => entry.1 = parameter then
            refuse (.repeatedParameter decorator.name)
          else
            match decorator.argument with
            | some argument =>
                if Text.blank argument then refuse (.emptyParameter decorator.name)
                else samplerArguments (given ++ [(parameter, argument)]) rest
            | none => refuse (.emptyParameter decorator.name)

namespace Sampler

/-! ## Setting parameters -/

/-- Sets a parameter that is a choice. -/
def setWord (sampler : Sampler) (parameter : ChoiceParameter) (word : Text) : Sampler :=
  match parameter with
  | .addressModeU => { sampler with addressModeU := some word }
  | .addressModeV => { sampler with addressModeV := some word }
  | .addressModeW => { sampler with addressModeW := some word }
  | .magFilter => { sampler with magFilter := some word }
  | .minFilter => { sampler with minFilter := some word }
  | .mipmapFilter => { sampler with mipmapFilter := some word }
  | .compare => { sampler with compare := some word }

/-- Sets a parameter that is a number. -/
def setNumber (sampler : Sampler) (parameter : RangeParameter) (value : Number) : Sampler :=
  match parameter with
  | .lodMinClamp => { sampler with lodMinClamp := some value }
  | .lodMaxClamp => { sampler with lodMaxClamp := some value }
  | .maxAnisotropy => { sampler with maxAnisotropy := some value }

/-- Sets parameters in the order in which they are given. -/
def setAll (context : Context) : Sampler → SamplerArguments → Check Sampler
  | sampler, [] => .ok sampler
  | sampler, (.choice parameter, argument) :: rest => do
      let word ← parameter.check (Text.trim argument)
      setAll context (sampler.setWord parameter word) rest
  | sampler, (.range parameter, argument) :: rest => do
      let values ← context.evaluate argument
      let value ← parameter.check values
      setAll context (sampler.setNumber parameter value) rest

/-- Checks that the least level of detail does not exceed the greatest. -/
def checkLevels (sampler : Sampler) : Check Unit :=
  match sampler.lodMinClamp, sampler.lodMaxClamp with
  | some least, some most =>
      if most.below least then refuse (.lodOrder least most) else .ok ()
  | _, _ => .ok ()

/-! ## Declarations -/

/-- What is wrong with the structure of a sampler declaration. -/
def issues (text : Text) : List Issue :=
  if (findVariable? samplerVariable text).isNone then [.noSamplerVariable] else []

/-- The sampler of a declaration. -/
def build (context : Context) (declaration : Declaration) : Check Resource :=
  let text := declaration.text
  match findVariable? samplerVariable text with
  | none => refuse .noSamplerVariable
  | some found => do
      let given ← samplerArguments [] (parameterDecorators .sampler text)
      let sampler ← setAll context {} given
      sampler.checkLevels
      let slot ← slotOf text
      let numeric := given.filterMap fun entry =>
        match entry.1 with
        | .range _ => some entry.2
        | .choice _ => none
      pure (context.resource declaration found.value.name slot numeric (.sampler sampler))

end Sampler

end ShaderMarkup
