import ClusterAccess.Text.Numeral

/-!
# Durations

## Main definitions

* `Duration`: a length of time in whole milliseconds.
* `Duration.render`: its text, in the largest unit that it reaches.
-/
namespace ClusterAccess.Time

structure Duration where
  milliseconds : Nat
  deriving DecidableEq, Repr

namespace Duration

def ofSeconds (n : Nat) : Duration := ⟨1000 * n⟩

def ofMilliseconds (n : Nat) : Duration := ⟨n⟩

def seconds (d : Duration) : Nat := d.milliseconds / 1000

/-- `30s`, `1.005s`, `55ms` or `0ns`; a fraction has no trailing zeros. -/
def render (d : Duration) : String :=
  if d.milliseconds = 0 then "0ns"
  else if d.milliseconds < 1000 then toString d.milliseconds ++ "ms"
  else
    let whole := toString d.seconds
    let rest := d.milliseconds % 1000
    if rest = 0 then whole ++ "s"
    else
      let digits := (Text.Numeral.padded 3 rest).reverse.dropWhile (· == '0') |>.reverse
      whole ++ "." ++ String.ofList digits ++ "s"

example : (ofSeconds 30).render = "30s" := by decide
example : (ofMilliseconds 1050).render = "1.05s" := by decide

end Duration
end ClusterAccess.Time
