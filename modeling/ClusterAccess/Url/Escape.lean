import ClusterAccess.Text.Percent

/-!
# Characters of URLs

Each part of a URL has characters that it may hold plainly. All others are written by their bytes.

## Main definitions

* `keepsFragment`, `keepsQuery`, `keepsPath`, `keepsSegment`, `keepsUser`: what the parts keep.
* `encoded`: a text with escapes for the rest.
-/
namespace ClusterAccess.Url

/-- Characters dropped everywhere. -/
def isDropped (c : Char) : Bool := c == '\t' || c == '\n' || c == '\r'

/-- Visible ASCII characters and the space. -/
def isPrintable (c : Char) : Bool := ' ' ≤ c && c ≤ '~'

def keepsAll (c : Char) : Bool := isPrintable c

def keepsFragment (c : Char) : Bool :=
  isPrintable c && !(c == ' ' || c == '"' || c == '<' || c == '>' || c == '\x60')

def keepsQuery (special : Bool) (c : Char) : Bool :=
  isPrintable c &&
    !(c == ' ' || c == '"' || c == '#' || c == '<' || c == '>' || (special && c == '\''))

def keepsPath (c : Char) : Bool :=
  keepsFragment c && !(c == '#' || c == '?' || c == '{' || c == '}')

def keepsSegment (special : Bool) (c : Char) : Bool :=
  keepsPath c && !(c == '/' || c == '%' || (special && c == '\\'))

def keepsUser (c : Char) : Bool :=
  keepsPath c && !(c == '/' || c == ':' || c == ';' || c == '=' || c == '@' || c == '[' ||
    c == '\\' || c == ']' || c == '^' || c == '|')

def encoded (keep : Char → Bool) (s : List Char) : String :=
  String.ofList (Text.Percent.encodeWith keep s)

end ClusterAccess.Url
