/-
Frontmatter/Esm/Problem.lean

What can be wrong with the source of a module: the causes, and the wording of
each of them.

A problem is found at a byte offset.  Some problems end the reading at once;
others are only noted, and reading goes on after them.
-/
import Frontmatter.Text.Printable

namespace Frontmatter.Esm

/-- The causes of a syntax error. -/
inductive Cause where
  | endOfSource
  | unexpectedChar (c : Char)
  | legacyComment
  | conflictMarker
  | unterminatedComment
  | unterminatedString
  | unterminatedTemplate
  | unterminatedRegex
  | invalidStringEscape
  | invalidUnicodeEscape
  | badEscape (wanted : String)
  | unicodeEscapeExpected
  | invalidIdentifierChar
  | escapedKeyword (word : String)
  | legacyOctal
  | legacyDecimal
  | digitExpected (radix : Nat)
  | exponentExpected
  | misplacedSeparator
  | identifierAfterNumber
  | duplicateRegexFlag (flag : Char)
  | unknownRegexFlags
  | expected (wanted got : String)
  | unexpected (got wanted : String)
  | identifierExpected
  | expressionExpected
  | semicolonExpected
  | endOfStatementExpected
  | spaceAfterHash
  | strictIdentifier (word : String)
  | awaitIdentifier
  | evalOrArguments
  | awaitInFunction
  | awaitInParameters
  | awaitStar
  | importOrExportNested
  | reservedImport
  | stringImport (name : String)
  | stringExport
  | exportWithoutFrom (word : String)
  | trailingComma
  | trailingImportComma
  | constWithoutValue
  | patternWithoutValue
  | usingDisabled
  | usingNotAllowed
  | usingPattern
  | usingWithoutValue
  | breakOutside
  | breakLabel
  | continueOutside
  | continueLabel
  | declarationNotAllowed
  | labeledFunction
  | labeledAsyncFunction
  | duplicateLabel (label : String)
  | returnOutside
  | lineBreakAfterThrow
  | withStatement
  | duplicateDefault
  | forVariables
  | forInitializer
  | forAwait
  | forOfAsync
  | assignmentTarget
  | assignmentOperand
  | notAssignable
  | notAPattern
  | notAnExpression
  | reservedShorthand
  | assignedProperty
  | optionalMember
  | restNotLast
  | restParameterNotLast
  | restWithDefault
  | commaAfterRest
  | restNeedsIdentifier
  | spreadInParens
  | emptyParens
  | lineBreakBeforeArrow
  | arrowNotAllowed
  | unaryBeforePower
  | mixedNullish
  | deleteIdentifier
  | newTargetOutside
  | importNotAllowed
  | superNotAllowed
  | superCallNotAllowed
  | newOptional
  | taggedOptional
  | getterParameters
  | setterParameters
  | setterRest
  | duplicateConstructor
  | constructorGenerator
  | constructorAsync
  | constructorAccessor
  | constructorPrivate
  | constructorProperty
  | constructorPrivateMethod
  | duplicateExtends
  | argumentsInField
  | strictDirective
  | outOfReach
deriving DecidableEq, Inhabited

/-- The wording of a cause. -/
def Cause.message : Cause → String
  | endOfSource => "Unexpected eof"
  | unexpectedChar c => "Unexpected character " ++ Text.shownInQuotes c
  | legacyComment => "Legacy comments cannot be used in module code"
  | conflictMarker => "Merge conflict marker encountered."
  | unterminatedComment => "Unterminated block comment"
  | unterminatedString => "Unterminated string constant"
  | unterminatedTemplate => "Unterminated template"
  | unterminatedRegex => "Unterminated regexp literal"
  | invalidStringEscape => "Invalid string escape"
  | invalidUnicodeEscape => "Invalid unicode escape"
  | badEscape wanted => "Bad character escape sequence, expected " ++ wanted
  | unicodeEscapeExpected => "Expected unicode escape"
  | invalidIdentifierChar => "Invalid character in identifier"
  | escapedKeyword word => "Unexpected escape sequence in reserved word: " ++ word
  | legacyOctal => "Legacy octal escape is not permitted in strict mode"
  | legacyDecimal => "Legacy decimal escape is not permitted in strict mode"
  | digitExpected radix =>
    "Expected " ++ (if radix = 2 then "a binary" else if radix = 8 then "an octal"
      else if radix = 10 then "a decimal" else "a hexadecimal") ++ " digit"
  | exponentExpected => "Expected +, - or decimal digit after e"
  | misplacedSeparator => "A numeric separator is only allowed between two digits"
  | identifierAfterNumber => "Identifier cannot follow number"
  | duplicateRegexFlag flag =>
    "Duplicated regular expression flag '" ++ String.singleton flag ++ "'."
  | unknownRegexFlags => "Unknown regular expression flags."
  | expected wanted got => "Expected '" ++ wanted ++ "', got '" ++ got ++ "'"
  | unexpected got wanted =>
    "Unexpected token " ++ String.singleton '`' ++ got ++ String.singleton '`' ++
      ". Expected " ++ wanted
  | identifierExpected => "Expected ident"
  | expressionExpected => "Expression expected"
  | semicolonExpected => "Expected a semicolon"
  | endOfStatementExpected => "Expected ';', '\x7d' or <eof>"
  | spaceAfterHash => "Unexpected space between # and identifier"
  | strictIdentifier word => code word ++ " cannot be used as an identifier in strict mode"
  | awaitIdentifier => code "await" ++ " cannot be used as an identifier in an async context"
  | evalOrArguments =>
    "'eval' and 'arguments' cannot be used as a binding identifier in strict mode"
  | awaitInFunction => "await isn't allowed in non-async function"
  | awaitInParameters => code "await" ++ " expressions cannot be used in a parameter initializer."
  | awaitStar => "await* has been removed from the async functions proposal. Use Promise.all() " ++
      "instead."
  | importOrExportNested => "'import', and 'export' cannot be used outside of module code"
  | reservedImport => "cannot import as reserved word"
  | stringImport name =>
    "A string literal cannot be used as an imported binding.\n- Did you mean " ++
      code ("import \x7b \"" ++ name ++ "\" as foo \x7d") ++ "?"
  | stringExport => "A string literal cannot be used as an exported binding without " ++
      code "from" ++ "."
  | exportWithoutFrom word =>
    code word ++ " cannot be used without " ++ code "from" ++ " clause"
  | trailingComma => "Trailing comma is not allowed"
  | trailingImportComma => "Trailing comma is disallowed inside import(...) arguments"
  | constWithoutValue => "'const' declarations must be initialized"
  | patternWithoutValue => "Destructuring bindings require initializers"
  | usingDisabled => "Using declaration is not enabled. Set " ++
      "jsc.parser.explicitResourceManagement to true"
  | usingNotAllowed => "Using declaration is not allowed here"
  | usingPattern => "Using declaration only allows identifiers"
  | usingWithoutValue => "Using declaration requires initializer"
  | breakOutside => "A 'break' statement can only be used within an enclosing iteration or " ++
      "switch statement"
  | breakLabel => "A 'break' statement can only jump to a label of an enclosing statement"
  | continueOutside => "A 'continue' statement can only jump to a label of an enclosing " ++
      "iteration statement"
  | continueLabel => "Jump target cannot cross function boundary"
  | declarationNotAllowed => "Declaration is not allowed"
  | labeledFunction => "Function cannot be labelled in strict mode"
  | labeledAsyncFunction => "Generator or async function cannot be labelled"
  | duplicateLabel label => "Label " ++ label ++ " is already declared"
  | returnOutside => "Return statement is not allowed here"
  | lineBreakAfterThrow => "LineBreak cannot follow 'throw'"
  | withStatement => "With statement are not allowed in strict mode"
  | duplicateDefault => "A switch block cannot have multiple defaults"
  | forVariables => "Expected one variable binding"
  | forInitializer => "Unexpected initializer in for in/of loop"
  | forAwait => "for await syntax is valid only for for-of statement"
  | forOfAsync => "The left-hand side of a " ++ code "for...of" ++ " statement may not be " ++
      code "async" ++ "."
  | assignmentTarget => "Invalid assignment target"
  | assignmentOperand => "The left-hand side of an assignment expression must be a variable or " ++
      "a property access."
  | notAssignable => "Cannot assign to this"
  | notAPattern => "Not a pattern"
  | notAnExpression => "Not an expression"
  | reservedShorthand => "cannot use a reserved word as a shorthand property"
  | assignedProperty => "assignment property is invalid syntax"
  | optionalMember => "An object member cannot be declared optional"
  | restNotLast => "Rest element must be final element"
  | restParameterNotLast => "A rest parameter must be last in a parameter list"
  | restWithDefault => "A rest parameter cannot have an initializer"
  | commaAfterRest => "Trailing comma isn't permitted after a rest element"
  | restNeedsIdentifier => code "..." ++ " must be followed by an identifier in declaration " ++
      "contexts"
  | spreadInParens => "Parenthesized expression cannot contain spread operator"
  | emptyParens => "Parenthesized expression cannot be empty"
  | lineBreakBeforeArrow => "Unexpected line break between arrow head and arrow"
  | arrowNotAllowed => "An arrow function is not allowed here"
  | unaryBeforePower => "'**' cannot be applied to unary/await expression."
  | mixedNullish =>
    "Nullish coalescing operator(??) requires parens when mixing with logical operators"
  | deleteIdentifier => "'delete' cannot be called on an identifier in strict mode"
  | newTargetOutside => "'new.target' is only allowed in the body of a function declaration, " ++
      "function expression, or class."
  | importNotAllowed => "Import is not allowed here."
  | superNotAllowed => "Invalid access to super"
  | superCallNotAllowed => "Invalid " ++ code "super()"
  | newOptional => "Constructor in/after an optional chaining is not allowed."
  | taggedOptional => "Tagged template literal is not allowed in optional chain"
  | getterParameters => "A " ++ code "get" ++ " accessor cannot have any parameters"
  | setterParameters => "A " ++ code "set" ++ " accessor must have exactly one parameter"
  | setterRest => "Rest pattern is not allowed in setter"
  | duplicateConstructor => "A class may only have one constructor"
  | constructorGenerator => "A class constructor cannot be a generator"
  | constructorAsync => "Constructor can't be an async function"
  | constructorAccessor => "Class constructor can't be an accessor"
  | constructorPrivate => "Classes can't have a private field named '#constructor'."
  | constructorProperty => "Classes may not have a non-static field named 'constructor'"
  | constructorPrivateMethod => "Class constructor can't be a private method"
  | duplicateExtends => code "extends" ++ " clause already seen."
  | argumentsInField => "'arguments' is only allowed in functions and class methods"
  | strictDirective => "Illegal 'use strict' directive in function with non-simple parameter list."
  | outOfReach => "Source is nested too deeply"
where
  /-- A word of the language, set off from the prose around it. -/
  code (word : String) : String := String.singleton '`' ++ word ++ String.singleton '`'

/-- A cause at a byte offset of the source. -/
structure Problem where
  start : Nat
  cause : Cause
deriving DecidableEq, Inhabited

end Frontmatter.Esm
