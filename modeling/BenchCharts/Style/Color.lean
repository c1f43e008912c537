import BenchCharts.Decimal.Numeral
import BenchCharts.Text.Quoted

/-!
Colors by channel. Ten of them have a name; every other one is written as a number sign with six
hexadecimal digits, two for each channel.
-/
namespace BenchCharts.Style

structure Color where
  red : Nat
  green : Nat
  blue : Nat
  deriving DecidableEq, Repr, Inhabited

namespace Color

/-- The lowest three bytes of a number. -/
def ofHex (v : Nat) : Color := ⟨v / 65536 % 256, v / 256 % 256, v % 256⟩

def black : Color := ofHex 0x000000

def white : Color := ofHex 0xffffff

/-- The default color cycle, in its order. -/
def named : List (String × Color) :=
  [("tab:blue", ofHex 0x1f77b4), ("tab:orange", ofHex 0xff7f0e), ("tab:green", ofHex 0x2ca02c),
    ("tab:red", ofHex 0xd62728), ("tab:purple", ofHex 0x9467bd), ("tab:brown", ofHex 0x8c564b),
    ("tab:pink", ofHex 0xe377c2), ("tab:gray", ofHex 0x7f7f7f), ("tab:olive", ofHex 0xbcbd22),
    ("tab:cyan", ofHex 0x17becf)]

def ofName? (name : String) : Option Color := named.lookup name

/-- The color at a position of the default cycle, which starts over after its end. -/
def cycle (i : Nat) : Color := (named[i % named.length]?.map (·.2)).getD black

/-- The number after a number sign; a text of six bytes is read as one hexadecimal number. -/
def ofNumberSign? (s : String) : Option Color :=
  match s.toList with
  | '#' :: digits =>
      if (String.ofList digits).utf8ByteSize = 6 then
        match Decimal.readNatural 16 Decimal.maxHalfWord digits with
        | .ok v => some (ofHex v)
        | .error _ => none
      else none
  | _ => none

/-- Reads a name or a number sign with six digits. -/
def parse? (s : String) : Option Color := (ofName? s).orElse fun _ => ofNumberSign? s

def invalidMessage (s : String) : String :=
  "invalid color " ++ Text.quoted s ++ ", expecting \x60tab:<name>\x60 or \x60#rrggbb\x60"

def hexPair (n : Nat) : List Char :=
  [Nat.digitChar (n / 16 % 16), Nat.digitChar (n % 16)]

def name? (c : Color) : Option String := (named.find? fun entry => entry.2 = c).map (·.1)

/-- The name of a color that has one, otherwise its channels in lower case. -/
def text (c : Color) : String :=
  c.name?.getD (String.ofList ('#' :: hexPair c.red ++ hexPair c.green ++ hexPair c.blue))

theorem cycle_add_ten (i : Nat) : cycle (i + 10) = cycle i := by
  simp [cycle, named]

end Color

end BenchCharts.Style
