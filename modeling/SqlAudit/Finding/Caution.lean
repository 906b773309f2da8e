import SqlAudit.Finding.Basic
import SqlAudit.Params

/-!
# Cautions

The causes of warnings. Each has its wording and its code here, and nowhere else.
-/

namespace SqlAudit

/-- The cause of a warning. -/
inductive Caution where
  | nonParameterized
  | missingSemicolon
  | updateWithoutWhere
  | repeatedSet (count : Nat)
  | selectStar
  | suspiciousParameter (suspect : String) (key : Key)
  | keywordInParameter (keyword : String) (key : Key)
  | hardcodedLiteral
  | unescapedBackslash (shown : List Char)
  | hostVariable
  | dangerousKeyword (keyword : String)
  | lineComment
  | blockComment
  | hashComment
  | alertFailed (channel reason : String)
deriving DecidableEq, Repr

namespace Caution

/-- The code of a caution. -/
def code : Caution → Code
  | .nonParameterized => .nonParameterized
  | .missingSemicolon => .missingSemicolon
  | .updateWithoutWhere => .updateWithoutWhere
  | .repeatedSet _ => .multipleSetClauses
  | .selectStar => .selectStar
  | .suspiciousParameter .. => .suspiciousParameter
  | .keywordInParameter .. => .sqlKeywordInParameter
  | .hardcodedLiteral => .hardcodedLiteral
  | .unescapedBackslash _ => .unescapedBackslash
  | .hostVariable => .hostVariableInQuery
  | .dangerousKeyword _ => .dangerousKeyword
  | .lineComment => .lineComment
  | .blockComment => .blockComment
  | .hashComment => .hashComment
  | .alertFailed .. => .notificationFailed

/-- A caution in words. -/
def message : Caution → String
  | .nonParameterized => "SECURITY WARNING: Non-parameterized query detected. " ++
      "Use parameterized queries to prevent SQL injection!"
  | .missingSemicolon => "Query does not end with semicolon ';'"
  | .updateWithoutWhere => "UPDATE without WHERE clause (risk of modifying all rows)"
  | .repeatedSet count => s!"Multiple SET clauses detected ({count})"
  | .selectStar => "Use of SELECT * (not recommended in production)"
  | .suspiciousParameter suspect key =>
    s!"Suspicious character '{suspect}' detected in parameter [{key.display}]"
  | .keywordInParameter keyword key =>
    s!"SQL keyword '{keyword}' detected in parameter [{key.display}]. Verify this is intentional."
  | .hardcodedLiteral =>
    "Hardcoded values (in quotes) detected in parameterized query. Use placeholders!"
  | .unescapedBackslash shown => s!"Unescaped backslash detected in: '{String.ofList shown}'"
  | .hostVariable => "Host variables detected in query. Ensure they are properly escaped!"
  | .dangerousKeyword keyword => s!"Potentially dangerous keyword detected: {keyword}"
  | .lineComment => "SQL comment ('--') detected in query"
  | .blockComment => "Block comment ('/* */') detected in query"
  | .hashComment => "Hash comment ('#') detected in query"
  | .alertFailed channel reason => s!"Failed to notify via {channel}: {reason}"

/-- The finding of a caution. -/
def finding (c : Caution) : Finding :=
  ⟨.warning, c.message, some c.code.name⟩

end Caution

end SqlAudit
