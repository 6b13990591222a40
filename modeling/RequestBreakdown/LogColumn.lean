import RequestBreakdown.Text.LetterCase
import RequestBreakdown.Value.Text

/-!
# Columns of the request log

The physical columns of the log table, and the catalog of the fields that facets
and filters can name, each with the expression it stands for.
-/

namespace RequestBreakdown

def logSchema : List (String × String) := [
  ("timestamp", "TIMESTAMP"),
  ("host", "VARCHAR"),
  ("forwarded_host", "VARCHAR"),
  ("url", "VARCHAR"),
  ("method", "VARCHAR"),
  ("status", "INTEGER"),
  ("content_type", "VARCHAR"),
  ("content_length", "BIGINT"),
  ("cache_status", "VARCHAR"),
  ("x_error", "VARCHAR"),
  ("referer", "VARCHAR"),
  ("user_agent", "VARCHAR"),
  ("client_ip", "VARCHAR"),
  ("forwarded_for", "VARCHAR"),
  ("asn", "INTEGER"),
  ("asn_name", "VARCHAR"),
  ("datacenter", "VARCHAR"),
  ("request_type", "VARCHAR"),
  ("backend_type", "VARCHAR"),
  ("time_elapsed_ms", "DOUBLE")]

def contentLengthColumn : String := "content_length"

def timeElapsedColumn : String := "time_elapsed_ms"

/-- How a filter value is brought to the form of its column. -/
inductive ColumnTransform where
  | asText
  | upperCase
  deriving DecidableEq, Repr

def ColumnTransform.apply : ColumnTransform → Value → Value
  | .asText, value => .text value.display
  | .upperCase, value => .text (Text.upper value.display)

/-- One field of the log and how facets and filters refer to it. -/
structure LogColumn where
  /-- The name in the catalog. -/
  key : String
  /-- The name in the log. -/
  logKey : String
  expression : String
  label : String
  shortLabel : Option String := none
  transform : Option ColumnTransform := none
  deriving DecidableEq, Repr

namespace LogColumn

def all : List LogColumn := [
  { key := "status", logKey := "status", expression := "CAST(status AS VARCHAR)", label := "Status"
    shortLabel := some "status", transform := some .asText },
  { key := "method", logKey := "method", expression := "method", label := "Method"
    shortLabel := some "method" },
  { key := "host", logKey := "host", expression := "host", label := "Host" },
  { key := "forwardedHost", logKey := "forwarded_host", expression := "forwarded_host"
    label := "Forwarded Host" },
  { key := "url", logKey := "url", expression := "url", label := "URL" },
  { key := "cacheStatus", logKey := "cache_status", expression := "upper(cache_status)"
    label := "Cache", shortLabel := some "cache", transform := some .upperCase },
  { key := "contentType", logKey := "content_type", expression := "content_type"
    label := "Content Type" },
  { key := "error", logKey := "x_error", expression := "x_error", label := "Error" },
  { key := "referer", logKey := "referer", expression := "referer", label := "Referer" },
  { key := "userAgent", logKey := "user_agent", expression := "user_agent", label := "User Agent" },
  { key := "clientIp", logKey := "client_ip", expression := "client_ip", label := "Client IP" },
  { key := "asn", logKey := "asn", expression := "asn", label := "ASN" },
  { key := "datacenter", logKey := "datacenter", expression := "datacenter", label := "Datacenter" },
  { key := "requestType", logKey := "request_type", expression := "request_type"
    label := "Request Type", shortLabel := some "type" },
  { key := "backendType", logKey := "backend_type", expression := "backend_type"
    label := "Backend Type", shortLabel := some "backend" }]

def ofKey? (key : String) : Option LogColumn := all.find? (·.key == key)

/-- The field of a log name, whatever its letter case. -/
def ofLogKey? (logKey : String) : Option LogColumn := all.find? (·.logKey == Text.lower logKey)

def ofExpression? (expression : String) : Option LogColumn := all.find? (·.expression == expression)

def expressions : List String := all.map (·.expression)

end LogColumn

end RequestBreakdown
