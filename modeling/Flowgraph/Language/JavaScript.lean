import Flowgraph.Grammar.Production

/-!
# The JavaScript grammar

The rules of JavaScript with JSX. The grammar is deliberately wider than the language in places:
words such as `let` or `export` may name a variable, and closing tags need not match.
-/

namespace Flowgraph.JavaScript

open Rule

/-! ## Characters -/

def spaceSeparators : List (Nat × Nat) :=
  [(0xA0, 0xA0), (0x1680, 0x1680), (0x2000, 0x200A), (0x202F, 0x202F), (0x205F, 0x205F),
   (0x3000, 0x3000)]

/-- Line separators and characters of no width that count as blank. -/
def otherBlanks : List (Nat × Nat) :=
  [(0xFEFF, 0xFEFF), (0x2028, 0x2029), (0x2060, 0x2060), (0x200B, 0x200B)]

def asciiBlanks : List (Nat × Nat) := [(9, 13), (32, 32)]

def blank : CharSet := .ofRanges (asciiBlanks ++ spaceSeparators ++ otherBlanks)

def digit : CharSet := .range '0' '9'

def hexDigit : CharSet := digit ++ .range 'a' 'f' ++ .range 'A' 'F'

def octalDigit : CharSet := .range '0' '7'

def asciiLetter : CharSet := .range 'a' 'z' ++ .range 'A' 'Z'

def noneOf (text : String) : CharSet := (CharSet.ofText text).complement

def wordBreaks : String := ":;\x60\"'@#.,|^&<=>+-*/\\%?!~()[]\x7b\x7d"

/-- Characters of a word after its first one: no controls, blanks or punctuation. -/
def wordChar : CharSet :=
  (CharSet.ofText wordBreaks ++ .ofRanges [(0, 0x1F)] ++ blank).complement

def wordStart : CharSet := wordChar.diff digit

/-! ## Lexemes -/

open Lexeme in
def wordEscape : Lexeme :=
  .alt (.seq (text "\\u") ((Lexeme.one hexDigit).times 4))
    (concat [text "\\u\x7b", plus (.one hexDigit), text "\x7d"])

def wordLexeme : Lexeme :=
  .seq (.alt (.one wordStart) wordEscape) (.star (.alt (.one wordChar) wordEscape))

open Lexeme in
def commentLexeme : Lexeme :=
  .alt
    (.seq (text "//")
      (.star (.one (CharSet.ofRanges [(13, 13), (10, 10), (0x2028, 0x2029)]).complement)))
    (concat [text "/*", .star (.one (noneOf "*")), plus (text "*"),
      .star (concat [.one (noneOf "/*"), .star (.one (noneOf "*")), plus (text "*")]), text "/"])

open Lexeme in
def digitsOf (set : CharSet) : Lexeme :=
  .seq (.one set) (.star (.seq (opt (text "_")) (.one set)))

open Lexeme in
def numberLexeme : Lexeme :=
  let hex := .seq (.alt (text "0x") (text "0X")) (digitsOf hexDigit)
  let digits := digitsOf digit
  let exponent := concat [.alt (text "e") (text "E"), opt (.alt (text "-") (text "+")), digits]
  let binary := .seq (.alt (text "0b") (text "0B")) (digitsOf (.range '0' '1'))
  let octal := .seq (.alt (text "0o") (text "0O")) (digitsOf octalDigit)
  let big := .seq (oneOf hex [binary, octal, digits]) (text "n")
  let integer := .alt (text "0")
    (concat [opt (text "0"), .one (.range '1' '9'), opt (.seq (opt (text "_")) digits)])
  let decimal := oneOf (concat [integer, text ".", opt digits, opt exponent])
    [concat [text ".", digits, opt exponent], .seq integer exponent, digits]
  oneOf hex [decimal, binary, octal, big]

open Lexeme in
def escapeLexeme : Lexeme :=
  .seq (text "\\")
    (oneOf (.one ((CharSet.ofText "xu" ++ octalDigit).complement))
      [between (.one octalDigit) 1 2,
       .seq (text "x") ((Lexeme.one hexDigit).times 2),
       .seq (text "u") ((Lexeme.one hexDigit).times 4),
       concat [text "u\x7b", plus (.one hexDigit), text "\x7d"],
       .seq (.one (.ofText "\r?")) (.one (.ofRanges [(10, 10), (0x2028, 0x2029)]))])

open Lexeme in
/-- The body of a regular expression; a slash inside brackets does not end it. -/
def regexLexeme : Lexeme :=
  let escaped := .seq (text "\\") (.one (noneOf "\n"))
  plus (oneOf
    (concat [text "[", .star (.alt escaped (.one (noneOf "]\n\\"))), text "]"])
    [escaped, .one (noneOf "/\\[\n")])

open Lexeme in
def characterReferenceLexeme : Lexeme :=
  let hexCode := .seq (.one (.ofText "xX")) (between (.one hexDigit) 1 5)
  concat [text "&",
    .alt (.seq (text "#") (.alt hexCode (between (.one digit) 1 4)))
      (between (.one asciiLetter) 1 29),
    text ";"]

open Lexeme in
def jsxNameLexeme : Lexeme :=
  let start := asciiLetter ++ .ofText "_$"
  concat [.one start, .star (.one (start ++ digit)), text "-",
    .star (.one (start ++ digit ++ .single '-'))]

open Lexeme in
/-- Text inside a quoted attribute: an ampersand may not begin a character reference. -/
def attributeText (quote : String) : Lexeme :=
  plus (.alt (.one (noneOf (quote ++ "&")))
    (.seq (text "&") (.one ((CharSet.single '#' ++ asciiLetter).complement))))

open Lexeme in
/-- The word `static` and the word `get` at the end of a line. -/
def staticGetLexeme : Lexeme :=
  let space := CharSet.ofRanges asciiBlanks
  concat [text "static", plus (.one space), text "get", .star (.one space), text "\n"]

/-! ## Common pieces -/

def openBrace : Rule := lit "\x7b"
def closeBrace : Rule := lit "\x7d"
def name : Rule := ref "identifier"
def expression : Rule := ref "expression"
def expressions : Rule := ref "_expressions"
def statement : Rule := ref "statement"
def block : Rule := ref "statement_block"
def semicolon : Rule := ref "_semicolon"
def parenthesized : Rule := ref "parenthesized_expression"
def destructuring : Rule := ref "_destructuring_pattern"
def reservedName : Rule := ref "_reserved_identifier"
def optionalLineEnd : Rule := opt (ref "_automatic_semicolon")
def decorators : Rule := many (field "decorator" (ref "decorator"))

def staticMark : Rule :=
  opt (.alt (lit "static") (asToken "static get" (pattern "static get" staticGetLexeme)))

/-- What marks a variable that is disposed of at the end of its block. -/
def usingMark : Rule := .alt (lit "using") (.seq (lit "await") (lit "using"))

/-- What a declaration binds; `of` is an ordinary name there. -/
def boundName : Rule := choice [name, as "identifier" (lit "of"), destructuring]

def quoted (quote : String) (parts : List Rule) : Rule :=
  seqs [lit quote, many (choice parts), lit quote]

def wordsAsNames : List String := ["get", "set", "async", "static", "export", "let"]

def binaryOperators : List (String × String × Side) :=
  [("&&", "logical_and", .left), ("||", "logical_or", .left), (">>", "binary_shift", .left),
   (">>>", "binary_shift", .left), ("<<", "binary_shift", .left), ("&", "bitwise_and", .left),
   ("^", "bitwise_xor", .left), ("|", "bitwise_or", .left), ("+", "binary_plus", .left),
   ("-", "binary_plus", .left), ("*", "binary_times", .left), ("/", "binary_times", .left),
   ("%", "binary_times", .left), ("**", "binary_exp", .right), ("<", "binary_relation", .left),
   ("<=", "binary_relation", .left), ("==", "binary_equality", .left),
   ("===", "binary_equality", .left), ("!=", "binary_equality", .left),
   ("!==", "binary_equality", .left), (">=", "binary_relation", .left),
   (">", "binary_relation", .left), ("??", "ternary", .left),
   ("instanceof", "binary_relation", .left), ("in", "binary_relation", .left)]

def binaryRule (op : String × String × Side) : Rule :=
  .ranked (.name op.2.1) (some op.2.2) (seqs
    [field "left" (if op.1 = "in" then .alt expression (ref "private_property_identifier")
      else expression),
     field "operator" (lit op.1), field "right" expression])

def assignmentOperators : List String :=
  ["+=", "-=", "*=", "/=", "%=", "^=", "&=", "|=", ">>=", ">>>=", "<<=", "**=", "&&=", "||=", "??="]

/-- The head of a loop over members or keys. What it binds is an existing place, a new variable of
shape `bound`, or one of the further forms. -/
def forHeader (bound : Rule) (further : List Rule) : Rule :=
  seqs [lit "(",
    choice ([field "left" (.alt (ref "_lhs_expression") parenthesized),
      seqs [field "kind" (lit "var"), field "left" bound, opt (ref "_initializer")],
      seqs [field "kind" (oneOf ["let", "const"]), field "left" bound, optionalLineEnd]]
      ++ further),
    field "operator" (oneOf ["in", "of"]), field "right" expressions, lit ")"]

/-- An assignment to a place; words of `marks` may come before it. -/
def assignment (marks : List Rule) : Rule :=
  rankRight "assign" (seqs (marks ++
    [field "left" (.alt parenthesized (ref "_lhs_expression")), lit "=",
     field "right" expression]))

/-- The declarations other than those of variables that are disposed of. -/
def commonDeclarations : List Rule :=
  ["function_declaration", "generator_function_declaration", "class_declaration",
   "lexical_declaration", "variable_declaration"].map ref

/-! ## Rules -/

def moduleRules : List (String × Rule) :=
  [("program", .seq (opt (ref "hash_bang_line")) (many statement)),
   ("hash_bang_line", pattern "hash_bang_line" (.seq (.text "#!") (.star (.one (noneOf "\n"))))),
   ("export_statement", .alt
      (seqs [lit "export",
        choice [.seq (lit "*") (ref "_from_clause"),
          .seq (ref "namespace_export") (ref "_from_clause"),
          .seq (ref "export_clause") (ref "_from_clause"), ref "export_clause"],
        semicolon])
      (seqs [decorators, lit "export",
        .alt (field "declaration" (ref "declaration"))
          (.seq (lit "default")
            (.alt (field "declaration" (ref "declaration"))
              (.seq (field "value" expression) semicolon)))])),
   ("namespace_export", seqs [lit "*", lit "as", ref "_module_export_name"]),
   ("export_clause", seqs [openBrace, commas (ref "export_specifier"), opt (lit ","), closeBrace]),
   ("export_specifier", .seq (field "name" (ref "_module_export_name"))
      (opt (.seq (lit "as") (field "alias" (ref "_module_export_name"))))),
   ("_module_export_name", choice [name, ref "string", lit "default"]),
   ("declaration", choice (commonDeclarations ++ [ref "using_declaration"])),
   ("import", lit "import"),
   ("import_statement", seqs [lit "import",
      .alt (.seq (ref "import_clause") (ref "_from_clause")) (field "source" (ref "string")),
      opt (ref "import_attribute"), semicolon]),
   ("import_clause", choice [ref "namespace_import", ref "named_imports",
      .seq name (opt (.seq (lit ",") (.alt (ref "namespace_import") (ref "named_imports"))))]),
   ("_from_clause", .seq (lit "from") (field "source" (ref "string"))),
   ("namespace_import", seqs [lit "*", lit "as", name]),
   ("named_imports", seqs [openBrace, commas (ref "import_specifier"), opt (lit ","), closeBrace]),
   ("import_specifier", .alt (field "name" name)
      (seqs [field "name" (ref "_module_export_name"), lit "as", field "alias" name])),
   ("import_attribute", .seq (lit "with") (ref "object"))]

def statementRules : List (String × Rule) :=
  [("statement", choice (["export_statement", "import_statement", "debugger_statement",
      "expression_statement", "declaration", "statement_block", "if_statement",
      "switch_statement", "for_statement", "for_in_statement", "while_statement",
      "do_statement", "try_statement", "with_statement", "break_statement",
      "continue_statement", "return_statement", "throw_statement", "empty_statement",
      "labeled_statement"].map ref)),
   ("expression_statement", .seq expressions semicolon),
   ("variable_declaration", seqs [lit "var", commas1 (ref "variable_declarator"), semicolon]),
   ("lexical_declaration", seqs [field "kind" (oneOf ["let", "const"]),
      commas1 (ref "variable_declarator"), semicolon]),
   ("using_declaration", seqs [field "kind" usingMark, commas1 (ref "variable_declarator"),
      semicolon]),
   ("variable_declarator", .seq (field "name" boundName) (opt (ref "_initializer"))),
   ("statement_block", right (seqs [openBrace, many statement, closeBrace, optionalLineEnd])),
   ("else_clause", .seq (lit "else") statement),
   ("if_statement", right (seqs [lit "if", field "condition" parenthesized,
      field "consequence" statement, opt (field "alternative" (ref "else_clause"))])),
   ("switch_statement", seqs [lit "switch", field "value" parenthesized,
      field "body" (ref "switch_body")]),
   ("for_statement", seqs [lit "for", lit "(",
      choice [field "initializer" (.alt (ref "lexical_declaration") (ref "variable_declaration")),
        .seq (field "initializer" expressions) (lit ";"),
        field "initializer" (ref "empty_statement")],
      field "condition" (.alt (.seq expressions (lit ";")) (ref "empty_statement")),
      field "increment" (opt expressions), lit ")", field "body" statement]),
   ("for_in_statement", seqs [lit "for", opt (lit "await"), ref "_for_header",
      field "body" statement]),
   ("_for_header", forHeader boundName [.seq (field "kind" usingMark) (field "left" boundName)]),
   ("while_statement", seqs [lit "while", field "condition" parenthesized,
      field "body" statement]),
   ("do_statement", right (seqs [lit "do", field "body" statement, lit "while",
      field "condition" parenthesized, opt semicolon])),
   ("try_statement", seqs [lit "try", field "body" block,
      opt (field "handler" (ref "catch_clause")), opt (field "finalizer" (ref "finally_clause"))]),
   ("with_statement", seqs [lit "with", field "object" parenthesized, field "body" statement]),
   ("break_statement", seqs [lit "break",
      field "label" (opt (as "statement_identifier" name)), semicolon]),
   ("continue_statement", seqs [lit "continue",
      field "label" (opt (as "statement_identifier" name)), semicolon]),
   ("debugger_statement", .seq (lit "debugger") semicolon),
   ("return_statement", seqs [lit "return", opt expressions, semicolon]),
   ("throw_statement", seqs [lit "throw", expressions, semicolon]),
   ("empty_statement", lit ";"),
   ("labeled_statement", .weighted (-1) (seqs
      [field "label" (as "statement_identifier" (.alt name reservedName)), lit ":",
       field "body" statement])),
   ("switch_body", seqs [openBrace, many (.alt (ref "switch_case") (ref "switch_default")),
      closeBrace]),
   ("switch_case", seqs [lit "case", field "value" expressions, lit ":",
      field "body" (many statement)]),
   ("switch_default", seqs [lit "default", lit ":", field "body" (many statement)]),
   ("catch_clause", seqs [lit "catch",
      opt (seqs [lit "(", field "parameter" (.alt name destructuring), lit ")"]),
      field "body" block]),
   ("finally_clause", .seq (lit "finally") (field "body" block)),
   ("parenthesized_expression", seqs [lit "(", expressions, lit ")"])]

def expressionRules : List (String × Rule) :=
  [("_expressions", .alt expression (ref "sequence_expression")),
   ("expression", choice (["primary_expression", "_jsx_element", "assignment_expression",
      "augmented_assignment_expression", "await_expression", "unary_expression",
      "binary_expression", "ternary_expression", "update_expression", "new_expression",
      "yield_expression"].map ref)),
   ("primary_expression", choice ([ref "subscript_expression", ref "member_expression",
      parenthesized, ref "_identifier", as "identifier" reservedName] ++
      ["this", "super", "number", "string", "template_string", "regex", "true", "false", "null",
       "object", "array", "function_expression", "arrow_function", "generator_function", "class",
       "meta_property", "call_expression"].map ref)),
   ("yield_expression", right (.seq (lit "yield")
      (.alt (.seq (lit "*") expression) (opt expression)))),
   ("object", rank "object" (seqs [openBrace,
      commas (opt (choice [ref "pair", ref "spread_element", ref "method_definition",
        as "shorthand_property_identifier" (.alt name reservedName)])),
      closeBrace])),
   ("object_pattern", rank "object" (seqs [openBrace,
      commas (opt (choice [ref "pair_pattern", ref "rest_pattern",
        ref "object_assignment_pattern",
        as "shorthand_property_identifier_pattern" (.alt name reservedName)])),
      closeBrace])),
   ("assignment_pattern", seqs [field "left" (ref "pattern"), lit "=", field "right" expression]),
   ("object_assignment_pattern", seqs
      [field "left" (.alt (as "shorthand_property_identifier_pattern" (.alt reservedName name))
        destructuring), lit "=", field "right" expression]),
   ("array", seqs [lit "[", commas (opt (.alt expression (ref "spread_element"))), lit "]"]),
   ("array_pattern", seqs [lit "[",
      commas (opt (.alt (ref "pattern") (ref "assignment_pattern"))), lit "]"])]

def jsxRules : List (String × Rule) :=
  [("jsx_element", seqs [field "open_tag" (ref "jsx_opening_element"), many (ref "_jsx_child"),
      field "close_tag" (ref "jsx_closing_element")]),
   ("html_character_reference", pattern "html_character_reference" characterReferenceLexeme),
   ("jsx_expression", seqs [openBrace,
      opt (choice [expression, ref "sequence_expression", ref "spread_element"]), closeBrace]),
   ("_jsx_child", choice [ref "jsx_text", ref "html_character_reference", ref "_jsx_element",
      ref "jsx_expression"]),
   ("jsx_opening_element", .weighted (-1) (seqs [lit "<",
      opt (.seq (field "name" (ref "_jsx_element_name"))
        (many (field "attribute" (ref "_jsx_attribute")))), lit ">"])),
   ("jsx_identifier", pattern "jsx_identifier" jsxNameLexeme),
   ("_jsx_identifier", .alt (as "identifier" (ref "jsx_identifier")) name),
   ("nested_identifier", rank "member" (seqs
      [field "object" (.alt name (as "member_expression" (ref "nested_identifier"))), lit ".",
       field "property" (as "property_identifier" name)])),
   ("jsx_namespace_name", seqs [ref "_jsx_identifier", lit ":", ref "_jsx_identifier"]),
   ("_jsx_element_name", choice [ref "_jsx_identifier",
      as "member_expression" (ref "nested_identifier"), ref "jsx_namespace_name"]),
   ("jsx_closing_element", seqs [lit "</", opt (field "name" (ref "_jsx_element_name")),
      lit ">"]),
   ("jsx_self_closing_element", seqs [lit "<", field "name" (ref "_jsx_element_name"),
      many (field "attribute" (ref "_jsx_attribute")), lit "/>"]),
   ("_jsx_attribute", .alt (ref "jsx_attribute") (ref "jsx_expression")),
   ("_jsx_attribute_name", .alt (as "property_identifier" (ref "_jsx_identifier"))
      (ref "jsx_namespace_name")),
   ("jsx_attribute", .seq (ref "_jsx_attribute_name")
      (opt (.seq (lit "=") (ref "_jsx_attribute_value")))),
   ("_jsx_string", .alt
      (quoted "\"" [as "string_fragment" (ref "unescaped_double_jsx_string_fragment"),
        ref "html_character_reference"])
      (quoted "'" [as "string_fragment" (ref "unescaped_single_jsx_string_fragment"),
        ref "html_character_reference"])),
   ("unescaped_double_jsx_string_fragment",
      glued "unescaped_double_jsx_string_fragment" 1 (attributeText "\"")),
   ("unescaped_single_jsx_string_fragment",
      glued "unescaped_single_jsx_string_fragment" 1 (attributeText "'")),
   ("_jsx_attribute_value", choice [as "string" (ref "_jsx_string"), ref "jsx_expression",
      ref "_jsx_element"]),
   ("_jsx_element", .alt (ref "jsx_element") (ref "jsx_self_closing_element"))]

def functionRules : List (String × Rule) :=
  [("class", rank "literal" (seqs [decorators, lit "class", field "name" (opt name),
      opt (ref "class_heritage"), field "body" (ref "class_body")])),
   ("class_declaration", rank "declare" (seqs [decorators, lit "class", field "name" name,
      opt (ref "class_heritage"), field "body" (ref "class_body"), optionalLineEnd])),
   ("class_heritage", .seq (lit "extends") expression),
   ("function_expression", rank "literal" (seqs [opt (lit "async"), lit "function",
      field "name" (opt name), ref "_call_signature", field "body" block])),
   ("function_declaration", rankRight "declare" (seqs [opt (lit "async"), lit "function",
      field "name" name, ref "_call_signature", field "body" block, optionalLineEnd])),
   ("generator_function", rank "literal" (seqs [opt (lit "async"), lit "function", lit "*",
      field "name" (opt name), ref "_call_signature", field "body" block])),
   ("generator_function_declaration", rankRight "declare" (seqs [opt (lit "async"),
      lit "function", lit "*", field "name" name, ref "_call_signature", field "body" block,
      optionalLineEnd])),
   ("arrow_function", seqs [opt (lit "async"),
      .alt (field "parameter" (.alt (as "identifier" reservedName) name)) (ref "_call_signature"),
      lit "=>", field "body" (.alt expression block)]),
   ("_call_signature", field "parameters" (ref "formal_parameters")),
   ("_formal_parameter", .alt (ref "pattern") (ref "assignment_pattern")),
   ("optional_chain", lit "?."),
   ("call_expression", choice
      [rank "call" (.seq (field "function" (.alt expression (ref "import")))
        (field "arguments" (ref "arguments"))),
       rank "template_call" (.seq
        (field "function" (.alt (ref "primary_expression") (ref "new_expression")))
        (field "arguments" (ref "template_string"))),
       rank "member" (seqs [field "function" (ref "primary_expression"),
        field "optional_chain" (ref "optional_chain"), field "arguments" (ref "arguments")])]),
   ("new_expression", rankRight "new" (seqs [lit "new",
      field "constructor" (.alt (ref "primary_expression") (ref "new_expression")),
      field "arguments" (opt (.weighted 1 (ref "arguments")))])),
   ("await_expression", rank "unary_void" (.seq (lit "await") expression)),
   ("member_expression", rank "member" (seqs
      [field "object" (choice [expression, ref "primary_expression", ref "import"]),
       .alt (lit ".") (field "optional_chain" (ref "optional_chain")),
       field "property" (.alt (ref "private_property_identifier")
        (.reserving 1 (as "property_identifier" name)))])),
   ("subscript_expression", rankRight "member" (seqs
      [field "object" (.alt expression (ref "primary_expression")),
       opt (field "optional_chain" (ref "optional_chain")),
       lit "[", field "index" expressions, lit "]"])),
   ("_lhs_expression", choice [ref "member_expression", ref "subscript_expression",
      ref "_identifier", as "identifier" reservedName, destructuring]),
   ("assignment_expression", assignment []),
   ("_augmented_assignment_lhs", choice [ref "member_expression", ref "subscript_expression",
      as "identifier" reservedName, name, parenthesized]),
   ("augmented_assignment_expression", rankRight "assign" (seqs
      [field "left" (ref "_augmented_assignment_lhs"),
       field "operator" (oneOf assignmentOperators), field "right" expression])),
   ("_initializer", .seq (lit "=") (field "value" expression)),
   ("_destructuring_pattern", .alt (ref "object_pattern") (ref "array_pattern")),
   ("spread_element", .seq (lit "...") expression),
   ("ternary_expression", rankRight "ternary" (seqs [field "condition" expression,
      asToken "?" (ref "_ternary_qmark"), field "consequence" expression, lit ":",
      field "alternative" expression])),
   ("binary_expression", choice (binaryOperators.map binaryRule)),
   ("unary_expression", rankLeft "unary_void" (.seq
      (field "operator" (oneOf ["!", "~", "-", "+", "typeof", "void", "delete"]))
      (field "argument" expression))),
   ("update_expression", left (.alt
      (.seq (field "argument" expression) (field "operator" (oneOf ["++", "--"])))
      (.seq (field "operator" (oneOf ["++", "--"])) (field "argument" expression)))),
   ("sequence_expression", right (commas1 expression))]

def primitiveRules : List (String × Rule) :=
  [("string", .alt
      (quoted "\"" [as "string_fragment" (ref "unescaped_double_string_fragment"),
        ref "escape_sequence"])
      (quoted "'" [as "string_fragment" (ref "unescaped_single_string_fragment"),
        ref "escape_sequence"])),
   ("unescaped_double_string_fragment",
      glued "unescaped_double_string_fragment" 1 (.plus (.one (noneOf "\"\\\r\n")))),
   ("unescaped_single_string_fragment",
      glued "unescaped_single_string_fragment" 1 (.plus (.one (noneOf "'\\\r\n")))),
   ("escape_sequence", glued "escape_sequence" 0 escapeLexeme),
   ("comment", pattern "comment" commentLexeme),
   ("template_string", quoted "\x60" [as "string_fragment" (ref "_template_chars"),
      ref "escape_sequence", ref "template_substitution"]),
   ("template_substitution", seqs [lit "$\x7b", expressions, closeBrace]),
   ("regex", seqs [lit "/", field "pattern" (ref "regex_pattern"), gluedLit "/" 1,
      opt (field "flags" (ref "regex_flags"))]),
   ("regex_pattern", glued "regex_pattern" (-1) regexLexeme),
   ("regex_flags", glued "regex_flags" 0 (.plus (.one (.range 'a' 'z')))),
   ("number", pattern "number" numberLexeme),
   ("_identifier", .alt (ref "undefined") name),
   ("identifier", pattern "identifier" wordLexeme),
   ("private_property_identifier",
      pattern "private_property_identifier" (.seq (.text "#") wordLexeme)),
   ("meta_property", .alt (seqs [lit "new", lit ".", lit "target"])
      (seqs [lit "import", lit ".", lit "meta"])),
   ("this", lit "this"), ("super", lit "super"), ("true", lit "true"), ("false", lit "false"),
   ("null", lit "null"), ("undefined", lit "undefined"),
   ("arguments", seqs [lit "(", commas (opt (.alt expression (ref "spread_element"))), lit ")"]),
   ("decorator", .seq (lit "@") (choice [name,
      as "member_expression" (ref "decorator_member_expression"),
      as "call_expression" (ref "decorator_call_expression")])),
   ("decorator_member_expression", rank "member" (seqs
      [field "object" (.alt name (as "member_expression" (ref "decorator_member_expression"))),
       lit ".", field "property" (as "property_identifier" name)])),
   ("decorator_call_expression", rank "call" (.seq
      (field "function" (.alt name (as "member_expression" (ref "decorator_member_expression"))))
      (field "arguments" (ref "arguments"))))]

def memberRules : List (String × Rule) :=
  [("class_body", seqs [openBrace,
      many (choice [.seq (field "member" (ref "method_definition")) (opt (lit ";")),
        .seq (field "member" (ref "field_definition")) semicolon,
        field "member" (ref "class_static_block"), lit ";"]),
      closeBrace]),
   ("field_definition", seqs [decorators, opt (lit "static"), field "property" (ref "_property_name"),
      opt (ref "_initializer")]),
   ("formal_parameters", seqs [lit "(",
      opt (.seq (commas1 (ref "_formal_parameter")) (opt (lit ","))), lit ")"]),
   ("class_static_block", seqs [lit "static", optionalLineEnd, field "body" block]),
   ("pattern", .weighted (-1) (.alt (ref "_lhs_expression") (ref "rest_pattern"))),
   ("rest_pattern", right (.seq (lit "...") (ref "_lhs_expression"))),
   ("method_definition", seqs [decorators, staticMark, opt (lit "async"),
      opt (oneOf ["get", "set", "*"]), field "name" (ref "_property_name"),
      field "parameters" (ref "formal_parameters"), field "body" block]),
   ("pair", seqs [field "key" (ref "_property_name"), lit ":", field "value" expression]),
   ("pair_pattern", seqs [field "key" (ref "_property_name"), lit ":",
      field "value" (.alt (ref "pattern") (ref "assignment_pattern"))]),
   ("_property_name", .reserving 1 (choice
      [as "property_identifier" (.alt name reservedName), ref "private_property_identifier",
       ref "string", ref "number", ref "computed_property_name"])),
   ("computed_property_name", seqs [lit "[", expression, lit "]"]),
   ("_reserved_identifier", oneOf ("await" :: wordsAsNames)),
   ("_semicolon", .alt (ref "_automatic_semicolon") (lit ";"))]

/-! ## The grammar -/

def reservedWords : List String :=
  ["break", "case", "catch", "class", "const", "continue", "debugger", "default", "delete", "do",
   "else", "export", "extends", "false", "finally", "for", "function", "if", "import", "in",
   "instanceof", "new", "null", "return", "super", "switch", "this", "throw", "true", "try",
   "typeof", "var", "void", "while", "with"]

def external : List Rule :=
  [ref "_automatic_semicolon", ref "_template_chars", ref "_ternary_qmark", ref "html_comment",
   lit "||", ref "escape_sequence", ref "regex_pattern", ref "jsx_text"]

/-- Tokens that match most texts, so that anywhere but in their own place they would take over what
other tokens stand for. -/
def openEnded : List String :=
  ["unescaped_double_string_fragment", "unescaped_single_string_fragment",
   "unescaped_double_jsx_string_fragment", "unescaped_single_jsx_string_fragment",
   "jsx_identifier", "html_character_reference", "/>", "regex_pattern", "regex_flags"]

/-- After an error a backquote is passed over as well: it does not tell whether it opens a template
or closes one, and taken the wrong way it makes a template of the code that follows. -/
def unsought : List String :=
  openEnded ++ ["\x60"]

def inlineRules : List String :=
  ["_call_signature", "_formal_parameter", "_expressions", "_semicolon", "_identifier",
   "_reserved_identifier", "_jsx_attribute", "_jsx_element_name", "_jsx_child", "_jsx_element",
   "_jsx_attribute_name", "_jsx_attribute_value", "_jsx_identifier", "_lhs_expression"]

def operatorRanking : List Ranked :=
  [.rank "member", .rank "template_call", .rank "call", .rule "update_expression",
   .rank "unary_void", .rank "binary_exp", .rank "binary_times", .rank "binary_plus",
   .rank "binary_shift", .rank "binary_compare", .rank "binary_relation",
   .rank "binary_equality", .rank "bitwise_and", .rank "bitwise_xor", .rank "bitwise_or",
   .rank "logical_and", .rank "logical_or", .rank "ternary", .rule "sequence_expression",
   .rule "arrow_function"]

def rankings : List (List Ranked) :=
  [operatorRanking,
   [.rank "assign", .rule "primary_expression"],
   [.rank "member", .rank "template_call", .rank "new", .rank "call", .rule "expression"],
   [.rank "declare", .rank "literal"],
   [.rule "primary_expression", .rule "statement_block", .rank "object"],
   [.rule "meta_property", .rule "import"],
   [.rule "import_statement", .rule "import"],
   [.rule "export_statement", .rule "primary_expression"],
   [.rule "lexical_declaration", .rule "primary_expression"]]

def rules : List (String × Rule) :=
  moduleRules ++ statementRules ++ expressionRules ++ jsxRules ++ functionRules
    ++ primitiveRules ++ memberRules

def source : GrammarSource :=
  { rules, external
    extras := ["comment", "html_comment"]
    unsought
    bodies := ["statement_block", "class_body"]
    bodyMarks := [ref "_automatic_semicolon", lit "||"]
    blank
    inline := inlineRules
    supertypes := ["statement", "declaration", "expression", "primary_expression", "pattern"]
    word := "identifier"
    rankings
    reserved := [reservedWords, []] }

end Flowgraph.JavaScript
