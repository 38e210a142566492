import Flowgraph.Language.JavaScript

/-!
# The TypeScript grammars

TypeScript adds types, declarations of types and modifiers to the rules of JavaScript. It comes in
two dialects: with tags, where a conversion is written with `as` only, and without tags, where it
may also be written with angle brackets.
-/

namespace Flowgraph.TypeScript

open Rule JavaScript

/-! ## Common pieces -/

def type : Rule := ref "type"
def typeName : Rule := ref "_type_identifier"
def typeClause : Rule := ref "type_annotation"
def optionalType : Rule := field "type" (opt typeClause)
def typeArguments : Rule := field "type_arguments" (ref "type_arguments")
def optionalTypeArguments : Rule := field "type_arguments" (opt (ref "type_arguments"))
def optionalTypeParameters : Rule := field "type_parameters" (opt (ref "type_parameters"))
def propertyName : Rule := field "name" (ref "_property_name")
def callSignature : Rule := ref "_call_signature"
def accessibility : Rule := opt (ref "accessibility_modifier")
def override : Rule := opt (ref "override_modifier")
def readonly : Rule := opt (lit "readonly")
def typeOrTypeof : Rule := opt (oneOf ["type", "typeof"])

/-- Replaces rules of the same name and adds the others at the end. -/
def revise (base changes : List (String × Rule)) : List (String × Rule) :=
  let replaced := base.map fun r => (r.1, (changes.lookup r.1).getD r.2)
  replaced ++ changes.filter fun c => (base.lookup c.1).isNone

def previous (ruleName : String) : Rule := (JavaScript.rules.lookup ruleName).getD .blank

/-! ## Changed rules -/

def moduleChanges : List (String × Rule) :=
  [("_module_export_name", .alt name (ref "string")),
   ("export_specifier", .seq typeOrTypeof (previous "export_specifier")),
   ("import_specifier", .seq typeOrTypeof (.alt
      (field "name" (ref "_import_identifier"))
      (seqs [field "name" (.alt (ref "_module_export_name") (as "identifier" (lit "type"))),
        lit "as", field "alias" (ref "_import_identifier")]))),
   ("import_clause", choice [ref "namespace_import", ref "named_imports",
      .seq (ref "_import_identifier")
        (opt (.seq (lit ",") (.alt (ref "namespace_import") (ref "named_imports"))))]),
   ("import_statement", seqs [lit "import", typeOrTypeof,
      choice [.seq (ref "import_clause") (ref "_from_clause"), ref "import_require_clause",
        field "source" (ref "string")],
      opt (ref "import_attribute"), semicolon]),
   ("export_statement", choice [previous "export_statement",
      seqs [lit "export", lit "type", ref "export_clause", opt (ref "_from_clause"), semicolon],
      seqs [lit "export", lit "=", expression, semicolon],
      seqs [lit "export", lit "as", lit "namespace", name, semicolon]]),
   ("import_attribute", .seq (oneOf ["with", "assert"]) (ref "object")),
   ("declaration", choice (commonDeclarations ++
      [ref "function_signature", ref "abstract_class_declaration", ref "module",
       rank "declare" (ref "internal_module")] ++
      ["type_alias_declaration", "enum_declaration", "interface_declaration", "import_alias",
       "ambient_declaration"].map ref)),
   ("_for_header", forHeader (.alt name destructuring) [])]

def expressionChanges : List (String × Rule) :=
  [("catch_clause", seqs [lit "catch",
      opt (seqs [lit "(", field "parameter" (.alt name destructuring),
        opt (field "type" typeClause), lit ")"]),
      field "body" block]),
   ("call_expression", choice
      [rank "call" (seqs [field "function" (.alt expression (ref "import")),
        optionalTypeArguments, field "arguments" (ref "arguments")]),
       rank "template_call" (.seq
        (field "function" (.alt (ref "primary_expression") (ref "new_expression")))
        (field "arguments" (ref "template_string"))),
       rank "member" (seqs [field "function" (ref "primary_expression"), lit "?.",
        optionalTypeArguments, field "arguments" (ref "arguments")])]),
   ("new_expression", rankRight "new" (seqs [lit "new",
      field "constructor" (ref "primary_expression"), optionalTypeArguments,
      field "arguments" (opt (ref "arguments"))])),
   ("member_expression", rank "member" (seqs
      [field "object" (choice [expression, ref "primary_expression", ref "import"]),
       .alt (lit ".") (field "optional_chain" (ref "optional_chain")),
       field "property" (.alt (ref "private_property_identifier")
        (as "property_identifier" name))])),
   ("assignment_expression", assignment [opt (lit "using")]),
   ("_augmented_assignment_lhs", .alt (previous "_augmented_assignment_lhs")
      (ref "non_null_expression")),
   ("_lhs_expression", .alt (previous "_lhs_expression") (ref "non_null_expression")),
   ("primary_expression", .alt (previous "primary_expression") (ref "non_null_expression")),
   ("_property_name", choice
      [as "property_identifier" (.alt name reservedName), ref "private_property_identifier",
       ref "string", ref "number", ref "computed_property_name"]),
   ("variable_declarator", .alt
      (seqs [field "name" (.alt name destructuring), optionalType,
        opt (ref "_initializer")])
      (rank "declare" (seqs [field "name" name, lit "!", field "type" typeClause]))),
   ("parenthesized_expression", seqs [lit "(",
      .alt (.seq expression optionalType) (ref "sequence_expression"), lit ")"]),
   ("_formal_parameter", .alt (ref "required_parameter") (ref "optional_parameter")),
   ("decorator", .seq (lit "@") (choice [name,
      as "member_expression" (ref "decorator_member_expression"),
      as "call_expression" (ref "decorator_call_expression"),
      as "parenthesized_expression" (ref "decorator_parenthesized_expression")])),
   ("decorator_call_expression", rank "call" (seqs
      [field "function" (.alt name (as "member_expression" (ref "decorator_member_expression"))),
       opt typeArguments, field "arguments" (ref "arguments")]))]

def classChanges : List (String × Rule) :=
  [("class_body", seqs [openBrace,
      many (choice
        [seqs [decorators, ref "method_definition", opt semicolon],
         .seq (ref "method_signature")
          (.alt (ref "_function_signature_automatic_semicolon") (lit ",")),
         ref "class_static_block",
         .seq (choice [ref "abstract_method_signature", ref "index_signature",
            ref "method_signature", ref "public_field_definition"]) (.alt semicolon (lit ",")),
         lit ";"]),
      closeBrace]),
   ("method_definition", left (seqs [accessibility, opt (lit "static"), override, readonly,
      opt (lit "async"), opt (oneOf ["get", "set", "*"]), propertyName, opt (lit "?"),
      callSignature, field "body" block])),
   ("class_heritage", .alt (.seq (ref "extends_clause") (opt (ref "implements_clause")))
      (ref "implements_clause")),
   ("class", rank "literal" (seqs [decorators, lit "class", field "name" (opt typeName),
      optionalTypeParameters, opt (ref "class_heritage"), field "body" (ref "class_body")])),
   ("class_declaration", rankLeft "declare" (seqs [decorators, lit "class",
      field "name" typeName, optionalTypeParameters, opt (ref "class_heritage"),
      field "body" (ref "class_body"), optionalLineEnd])),
   ("_call_signature", seqs [optionalTypeParameters,
      field "parameters" (ref "formal_parameters"),
      field "return_type" (opt (choice [typeClause, ref "asserts_annotation",
        ref "type_predicate_annotation"]))]),
   ("_reserved_identifier", .alt
      (oneOf ["declare", "namespace", "type", "public", "private", "protected", "override",
        "readonly", "module", "any", "number", "boolean", "string", "symbol", "export", "object",
        "new", "readonly"])
      (oneOf wordsAsNames))]

/-! ## Added rules -/

def declarationRules : List (String × Rule) :=
  [("public_field_definition", seqs [decorators,
      opt (.alt (.seq (lit "declare") accessibility)
        (.seq (ref "accessibility_modifier") (opt (lit "declare")))),
      choice [seqs [opt (lit "static"), override, readonly],
        .seq (opt (lit "abstract")) readonly, .seq readonly (opt (lit "abstract")),
        opt (lit "accessor")],
      propertyName, opt (oneOf ["?", "!"]), optionalType, opt (ref "_initializer")]),
   ("_import_identifier", .alt name (as "identifier" (lit "type"))),
   ("non_null_expression", rankLeft "unary" (.seq expression (lit "!"))),
   ("method_signature", seqs [accessibility, opt (lit "static"), override, readonly,
      opt (lit "async"), opt (oneOf ["get", "set", "*"]), propertyName, opt (lit "?"),
      callSignature]),
   ("abstract_method_signature", seqs [accessibility, lit "abstract", override,
      opt (oneOf ["get", "set", "*"]), propertyName, opt (lit "?"), callSignature]),
   ("function_signature", seqs [opt (lit "async"), lit "function", field "name" name,
      callSignature, .alt semicolon (ref "_function_signature_automatic_semicolon")]),
   ("decorator_parenthesized_expression", seqs [lit "(", choice [name,
      as "member_expression" (ref "decorator_member_expression"),
      as "call_expression" (ref "decorator_call_expression")], lit ")"]),
   ("type_assertion", rankLeft "unary" (.seq (ref "type_arguments") expression)),
   ("as_expression", rankLeft "binary" (seqs [expression, lit "as", .alt (lit "const") type])),
   ("satisfies_expression", rankLeft "binary" (seqs [expression, lit "satisfies", type])),
   ("instantiation_expression", rank "instantiation" (.seq expression typeArguments)),
   ("import_require_clause", seqs [name, lit "=", lit "require", lit "(",
      field "source" (ref "string"), lit ")"]),
   ("extends_clause", .seq (lit "extends") (commas1 (ref "_extends_clause_single"))),
   ("_extends_clause_single", rank "extends" (.seq (field "value" expression)
      optionalTypeArguments)),
   ("implements_clause", .seq (lit "implements") (commas1 type)),
   ("ambient_declaration", .seq (lit "declare") (choice [ref "declaration",
      .seq (lit "global") block,
      seqs [lit "module", lit ".", as "property_identifier" name, lit ":", type, semicolon]])),
   ("abstract_class_declaration", rank "declare" (seqs [decorators, lit "abstract", lit "class",
      field "name" typeName, optionalTypeParameters, opt (ref "class_heritage"),
      field "body" (ref "class_body")])),
   ("module", .seq (lit "module") (ref "_module")),
   ("internal_module", .seq (lit "namespace") (ref "_module")),
   ("_module", right (.seq
      (field "name" (choice [ref "string", name, ref "nested_identifier"]))
      (field "body" (opt block)))),
   ("import_alias", seqs [lit "import", name, lit "=", .alt name (ref "nested_identifier"),
      semicolon]),
   ("nested_type_identifier", rank "member" (seqs
      [field "module" (.alt name (ref "nested_identifier")), lit ".", field "name" typeName])),
   ("interface_declaration", seqs [lit "interface", field "name" typeName,
      optionalTypeParameters, opt (ref "extends_type_clause"),
      field "body" (as "interface_body" (ref "object_type"))]),
   ("extends_type_clause", .seq (lit "extends") (commas1 (field "type" (choice [typeName,
      ref "nested_type_identifier", ref "generic_type"])))),
   ("enum_declaration", seqs [opt (lit "const"), lit "enum", field "name" name,
      field "body" (ref "enum_body")]),
   ("enum_body", seqs [openBrace,
      opt (.seq (commas1 (.alt propertyName (ref "enum_assignment"))) (opt (lit ","))),
      closeBrace]),
   ("enum_assignment", .seq propertyName (ref "_initializer")),
   ("type_alias_declaration", seqs [lit "type", field "name" typeName, optionalTypeParameters,
      lit "=", field "value" type, semicolon]),
   ("accessibility_modifier", oneOf ["public", "private", "protected"]),
   ("override_modifier", lit "override"),
   ("required_parameter", seqs [ref "_parameter_name", optionalType,
      opt (ref "_initializer")]),
   ("optional_parameter", seqs [ref "_parameter_name", lit "?", optionalType,
      opt (ref "_initializer")]),
   ("_parameter_name", seqs [decorators, accessibility, override, readonly,
      field "pattern" (.alt (ref "pattern") (ref "this"))])]

/-- A path in a type annotation that begins with an import. -/
def annotatedMember : Rule :=
  as "member_expression" (ref "_type_query_member_expression_in_type_annotation")

def annotatedCall : Rule :=
  as "call_expression" (ref "_type_query_call_expression_in_type_annotation")

def queryMember : Rule := as "member_expression" (ref "_type_query_member_expression")
def querySubscript : Rule := as "subscript_expression" (ref "_type_query_subscript_expression")
def queryCall : Rule := as "call_expression" (ref "_type_query_call_expression")

def annotationRules : List (String × Rule) :=
  [("omitting_type_annotation", .seq (lit "-?:") type),
   ("adding_type_annotation", .seq (lit "+?:") type),
   ("opting_type_annotation", .seq (lit "?:") type),
   ("type_annotation", .seq (lit ":") (choice [type, annotatedMember, annotatedCall])),
   ("_type_query_member_expression_in_type_annotation", seqs
      [field "object" (choice [ref "import", annotatedMember, annotatedCall]), lit ".",
       field "property" (.alt (ref "private_property_identifier")
        (as "property_identifier" name))]),
   ("_type_query_call_expression_in_type_annotation", .seq
      (field "function" (.alt (ref "import") annotatedMember))
      (field "arguments" (ref "arguments"))),
   ("asserts", .seq (lit "asserts") (choice [ref "type_predicate", name, ref "this"])),
   ("asserts_annotation", .seq (lit ":") (ref "asserts")),
   ("type", choice [ref "primary_type", ref "function_type", ref "readonly_type",
      ref "constructor_type", ref "infer_type",
      .ranked (.number (-1)) none annotatedMember, .ranked (.number (-1)) none annotatedCall]),
   ("tuple_parameter", .seq (field "name" (.alt name (ref "rest_pattern")))
      (field "type" typeClause)),
   ("optional_tuple_parameter", seqs [field "name" name, lit "?", field "type" typeClause]),
   ("optional_type", .seq type (lit "?")),
   ("rest_type", .seq (lit "...") type),
   ("_tuple_type_member", choice [as "required_parameter" (ref "tuple_parameter"),
      as "optional_parameter" (ref "optional_tuple_parameter"), ref "optional_type",
      ref "rest_type", type]),
   ("constructor_type", left (seqs [opt (lit "abstract"), lit "new", optionalTypeParameters,
      field "parameters" (ref "formal_parameters"), lit "=>", field "type" type])),
   ("primary_type", choice ([ref "parenthesized_type", ref "predefined_type", typeName] ++
      ["nested_type_identifier", "generic_type", "object_type", "array_type", "tuple_type",
       "flow_maybe_type", "type_query", "index_type_query"].map ref ++
      [as "this_type" (ref "this")] ++
      ["existential_type", "literal_type", "lookup_type", "conditional_type",
       "template_literal_type", "intersection_type", "union_type"].map ref ++ [lit "const"])),
   ("template_type", seqs [lit "$\x7b", .alt (ref "primary_type") (ref "infer_type"),
      closeBrace]),
   ("template_literal_type", quoted "\x60" [as "string_fragment" (ref "_template_chars"),
      ref "template_type"]),
   ("infer_type", right (seqs [lit "infer", typeName, opt (.seq (lit "extends") type)])),
   ("conditional_type", right (seqs [field "left" type, lit "extends", field "right" type,
      lit "?", field "consequence" type, lit ":", field "alternative" type])),
   ("generic_type", rank "call" (.seq
      (field "name" (.alt typeName (ref "nested_type_identifier"))) typeArguments)),
   ("type_predicate", seqs [field "name" (choice [name, ref "this",
      as "identifier" (ref "predefined_type")]), lit "is", field "type" type]),
   ("type_predicate_annotation", .seq (lit ":") (ref "type_predicate"))]

def queryRules : List (String × Rule) :=
  [("_type_query_member_expression", seqs
      [field "object" (choice [name, ref "this", querySubscript, queryMember, queryCall]),
       oneOf [".", "?."],
       field "property" (.alt (ref "private_property_identifier")
        (as "property_identifier" name))]),
   ("_type_query_subscript_expression", seqs
      [field "object" (choice [name, ref "this", querySubscript, queryMember, queryCall]),
       opt (lit "?."), lit "[",
       field "index" (choice [ref "predefined_type", ref "string", ref "number"]), lit "]"]),
   ("_type_query_call_expression", .seq
      (field "function" (choice [ref "import", name, queryMember, querySubscript]))
      (field "arguments" (ref "arguments"))),
   ("_type_query_instantiation_expression", .seq
      (field "function" (choice [ref "import", name, queryMember, querySubscript]))
      typeArguments),
   ("type_query", right (.seq (lit "typeof") (choice [querySubscript, queryMember, queryCall,
      as "instantiation_expression" (ref "_type_query_instantiation_expression"), name,
      ref "this"]))),
   ("index_type_query", .seq (lit "keyof") (ref "primary_type")),
   ("lookup_type", seqs [ref "primary_type", lit "[", type, lit "]"]),
   ("mapped_type_clause", seqs [field "name" typeName, lit "in", field "type" type,
      opt (.seq (lit "as") (field "alias" type))]),
   ("literal_type", choice ([as "unary_expression" (ref "_number")] ++
      ["number", "string", "true", "false", "null", "undefined"].map ref)),
   ("_number", .ranked (.number 1) (some .left) (.seq (field "operator" (oneOf ["-", "+"]))
      (field "argument" (ref "number")))),
   ("existential_type", lit "*"),
   ("flow_maybe_type", right (.seq (lit "?") (ref "primary_type"))),
   ("parenthesized_type", seqs [lit "(", type, lit ")"]),
   ("predefined_type", choice ((["any", "number", "boolean", "string", "symbol"].map lit) ++
      [asToken "unique symbol" (.seq (lit "unique") (lit "symbol"))] ++
      (["void", "unknown", "string", "never", "object"].map lit)))]

def signatureRules : List (String × Rule) :=
  let member := choice (["export_statement", "property_signature", "call_signature",
    "construct_signature", "index_signature", "method_signature"].map ref)
  [("type_arguments", seqs [lit "<", commas1 type, opt (lit ","), lit ">"]),
   ("object_type", seqs [oneOf ["\x7b", "\x7b|"],
      opt (seqs [opt (oneOf [",", ";"]), member,
        many (.seq (.alt (lit ",") semicolon) member), opt (.alt (lit ",") semicolon)]),
      oneOf ["\x7d", "|\x7d"]]),
   ("call_signature", callSignature),
   ("property_signature", seqs [accessibility, opt (lit "static"), override, readonly,
      propertyName, opt (lit "?"), optionalType]),
   ("type_parameters", seqs [lit "<", commas1 (ref "type_parameter"), opt (lit ","), lit ">"]),
   ("type_parameter", seqs [opt (lit "const"), field "name" typeName,
      field "constraint" (opt (ref "constraint")), field "value" (opt (ref "default_type"))]),
   ("default_type", .seq (lit "=") type),
   ("constraint", .seq (oneOf ["extends", ":"]) type),
   ("construct_signature", seqs [opt (lit "abstract"), lit "new", optionalTypeParameters,
      field "parameters" (ref "formal_parameters"), optionalType]),
   ("index_signature", seqs
      [opt (.seq (field "sign" (opt (oneOf ["+", "-"]))) (lit "readonly")), lit "[",
       .alt (seqs [field "name" (.alt name (as "identifier" reservedName)), lit ":",
          field "index_type" type]) (ref "mapped_type_clause"),
       lit "]",
       field "type" (choice [typeClause, ref "omitting_type_annotation",
        ref "adding_type_annotation", ref "opting_type_annotation"])]),
   ("array_type", seqs [ref "primary_type", lit "[", lit "]"]),
   ("tuple_type", seqs [lit "[", commas (ref "_tuple_type_member"), opt (lit ","), lit "]"]),
   ("readonly_type", .seq (lit "readonly") type),
   ("union_type", left (seqs [opt type, lit "|", type])),
   ("intersection_type", left (seqs [opt type, lit "&", type])),
   ("function_type", left (seqs [optionalTypeParameters,
      field "parameters" (ref "formal_parameters"), lit "=>",
      field "return_type" (choice [type, ref "asserts", ref "type_predicate"])])),
   ("_type_identifier", as "type_identifier" name)]

/-! ## Tags -/

/-- An opening tag up to its end; the name may have type arguments. -/
def tagRules : List (String × Rule) :=
  [("_jsx_start_opening_element", .seq (lit "<")
      (opt (.seq
        (.alt (field "name" (.alt (ref "_jsx_identifier") (ref "jsx_namespace_name")))
          (.seq (field "name" (.alt name (as "member_expression" (ref "nested_identifier"))))
            optionalTypeArguments))
        (many (field "attribute" (ref "_jsx_attribute")))))),
   ("jsx_opening_element", .weighted (-1) (.seq (ref "_jsx_start_opening_element") (lit ">"))),
   ("jsx_self_closing_element",
      .weighted (-1) (.seq (ref "_jsx_start_opening_element") (lit "/>")))]

/-- The expressions added by TypeScript, before those of JavaScript. -/
def addedExpressions : List String :=
  ["as_expression", "satisfies_expression", "instantiation_expression", "internal_module"]

def plainExpressions : List String :=
  ["primary_expression", "assignment_expression", "augmented_assignment_expression",
   "await_expression", "unary_expression", "binary_expression", "ternary_expression",
   "update_expression", "new_expression", "yield_expression"]

def expressionRule (tags : Bool) : Rule :=
  if tags then .alt (choice (addedExpressions.map ref)) (previous "expression")
  else choice ((addedExpressions ++ ["type_assertion"] ++ plainExpressions).map ref)

/-! ## The grammars -/

def rankings : List (List Ranked) :=
  JavaScript.rankings ++
  [[.rank "call", .rank "instantiation", .rank "unary", .rank "binary",
    .rule "await_expression", .rule "arrow_function"],
   [.rank "extends", .rank "instantiation"],
   [.rule "intersection_type", .rule "union_type", .rule "conditional_type",
    .rule "function_type", .rank "binary", .rule "type_predicate", .rule "readonly_type"],
   [.rule "mapped_type_clause", .rule "primary_expression"],
   [.rule "accessibility_modifier", .rule "primary_expression"],
   [.rank "unary_void", .rule "expression"],
   [.rule "extends_clause", .rule "primary_expression"],
   [.rank "unary", .rank "assign"],
   [.rank "declare", .rule "expression"],
   [.rule "predefined_type", .rule "unary_expression"],
   [.rule "type", .rule "flow_maybe_type"],
   [.rule "tuple_type", .rule "array_type", .rule "pattern", .rule "type"],
   [.rule "readonly_type", .rule "pattern"],
   [.rule "readonly_type", .rule "primary_expression"],
   [.rule "type_query", .rule "subscript_expression", .rule "expression"],
   [.rule "type_query", .rule "_type_query_subscript_expression"],
   [.rule "nested_type_identifier", .rule "generic_type", .rule "primary_type",
    .rule "lookup_type", .rule "index_type_query", .rule "type"],
   [.rule "as_expression", .rule "satisfies_expression", .rule "primary_type"],
   [.rule "_type_query_member_expression", .rule "member_expression"],
   [.rule "member_expression", .rule "_type_query_member_expression_in_type_annotation"],
   [.rule "_type_query_member_expression", .rule "primary_expression"],
   [.rule "_type_query_subscript_expression", .rule "subscript_expression"],
   [.rule "_type_query_subscript_expression", .rule "primary_expression"],
   [.rule "_type_query_call_expression", .rule "primary_expression"],
   [.rule "_type_query_instantiation_expression", .rule "primary_expression"],
   [.rule "type_query", .rule "primary_expression"],
   [.rule "override_modifier", .rule "primary_expression"],
   [.rule "decorator_call_expression", .rule "decorator"],
   [.rule "literal_type", .rule "pattern"],
   [.rule "predefined_type", .rule "pattern"],
   [.rule "call_expression", .rule "_type_query_call_expression"],
   [.rule "call_expression", .rule "_type_query_call_expression_in_type_annotation"],
   [.rule "new_expression", .rule "primary_expression"],
   [.rule "meta_property", .rule "primary_expression"],
   [.rule "construct_signature", .rule "_property_name"]]

def source (tags : Bool) : GrammarSource :=
  { rules := revise JavaScript.rules (moduleChanges ++ expressionChanges ++ classChanges
      ++ declarationRules ++ annotationRules ++ queryRules ++ signatureRules ++ tagRules
      ++ [("expression", expressionRule tags)])
    external := JavaScript.external ++
      [ref "_function_signature_automatic_semicolon", ref "__error_recovery"]
    extras := JavaScript.source.extras
    unsought := JavaScript.openEnded ++ ["?:"] ++ (if tags then [] else ["</"])
    bodies := []
    bodyMarks := []
    blank := JavaScript.blank
    inline := (JavaScript.inlineRules.filter fun r =>
      r != "_formal_parameter" && r != "_call_signature")
      ++ ["_type_identifier", "_jsx_start_opening_element"]
    supertypes := JavaScript.source.supertypes ++ ["type", "primary_type"]
    word := "identifier"
    rankings
    reserved := [] }

end Flowgraph.TypeScript
