/-!
What can be wrong with a script. Reading goes on after most faults; the kind of fault is kept, since
it says which rule of the language the text breaks.
-/

namespace LinkSurvey.Script

inductive Fault where
  -- tokens
  | unknownCharacter
  | unexpectedEnd
  | unterminatedComment
  | unterminatedString
  | unterminatedTemplate
  | unterminatedRegex
  | malformedEscape
  | malformedNumber
  | unknownFlag
  | repeatedFlag
  | escapedKeyword
  -- expressions
  | unexpected
  | expected (spelling : String)
  | missingSemicolon
  | emptyParentheses
  | notAssignable
  | restNotLast
  | commaAfterRest
  | awaitOutsideAsync
  | yieldOutsideGenerator
  | awaitAsName
  | yieldAsName
  | misplacedSuper
  | signedPower
  | templateInChain
  | chainInNew
  | importInNew
  | lineBreakBeforeArrow
  -- statements and declarations
  | missingInitializer
  | missingName
  | patternInUsing
  | lineBreakInUsing
  | usingInForIn
  | lexicalAsBody
  | classAsBody
  | asyncAsBody
  | generatorAsBody
  | lineBreakAfterThrow
  | missingHandler
  | returnOutsideFunction
  | misplacedForAwait
  | asyncInForOf
  -- classes
  | constructorField
  | constructorAccessor
  | constructorAsync
  | constructorGenerator
  | privateConstructor
  | staticPrototype
  | repeatedHeritage
  -- modules
  | stringAsLocal
  | reservedAsLocal
  | unpairedSurrogate
  | repeatedAttribute
  -- markup
  | unmatchedTag
  | sequenceInMarkup
  -- the whole script
  | otherLanguage
  | tooDeep
  deriving DecidableEq, Repr

end LinkSurvey.Script
