/-!
# Findings

A finding of a report has a severity, a message for people and, unless it is mere information, a
stable code. `Code` lists the codes of all checks.
-/

namespace SqlAudit

/-- How grave a finding is. -/
inductive Severity where
  | error
  | warning
  | info
deriving DecidableEq, Repr

/-- The name of a severity. -/
def Severity.name : Severity → String
  | .error => "error"
  | .warning => "warning"
  | .info => "info"

/-- One finding of a report. -/
structure Finding where
  severity : Severity
  message : String
  code : Option String
deriving DecidableEq, Repr

/-- The codes of the findings that the checks make. -/
inductive Code where
  | emptyQuery
  | unbalancedParentheses
  | unpairedSingleQuotes
  | unpairedDoubleQuotes
  | insertPlaceholderCountMismatch
  | insertValueCountMismatch
  | deleteWithoutWhere
  | placeholderCountMismatch
  | mixedPlaceholders
  | superglobalInQuery
  | hostVariableInQuery
  | dangerousLiteralPattern
  | nonParameterized
  | missingSemicolon
  | updateWithoutWhere
  | multipleSetClauses
  | selectStar
  | suspiciousParameter
  | sqlKeywordInParameter
  | hardcodedLiteral
  | unescapedBackslash
  | dangerousKeyword
  | lineComment
  | blockComment
  | hashComment
  | notificationSent
  | notificationFailed
deriving DecidableEq, Repr

/-- The name of a code. -/
def Code.name : Code → String
  | .emptyQuery => "empty_query"
  | .unbalancedParentheses => "unbalanced_parentheses"
  | .unpairedSingleQuotes => "unpaired_single_quotes"
  | .unpairedDoubleQuotes => "unpaired_double_quotes"
  | .insertPlaceholderCountMismatch => "insert_placeholder_count_mismatch"
  | .insertValueCountMismatch => "insert_value_count_mismatch"
  | .deleteWithoutWhere => "delete_without_where"
  | .placeholderCountMismatch => "placeholder_count_mismatch"
  | .mixedPlaceholders => "mixed_placeholders"
  | .superglobalInQuery => "superglobal_in_query"
  | .hostVariableInQuery => "host_variable_in_query"
  | .dangerousLiteralPattern => "dangerous_literal_pattern"
  | .nonParameterized => "non_parameterized"
  | .missingSemicolon => "missing_semicolon"
  | .updateWithoutWhere => "update_without_where"
  | .multipleSetClauses => "multiple_set_clauses"
  | .selectStar => "select_star"
  | .suspiciousParameter => "suspicious_parameter"
  | .sqlKeywordInParameter => "sql_keyword_in_parameter"
  | .hardcodedLiteral => "hardcoded_literal"
  | .unescapedBackslash => "unescaped_backslash"
  | .dangerousKeyword => "dangerous_keyword"
  | .lineComment => "line_comment"
  | .blockComment => "block_comment"
  | .hashComment => "hash_comment"
  | .notificationSent => "notification_sent"
  | .notificationFailed => "notification_failed"

end SqlAudit
