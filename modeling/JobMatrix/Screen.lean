import JobMatrix.Language

/-!
Text for a terminal: in a language, and with or without colour. A coloured text opens with the
codes of its style and ends with a reset; a reset inside it opens the style again.
-/
namespace JobMatrix

structure Screen where
  language : Language
  coloured : Bool
  deriving DecidableEq

structure Style where
  codes : String
  deriving DecidableEq

namespace Style

def bold : Style := ⟨"1"⟩
def dimmed : Style := ⟨"2"⟩
def green : Style := ⟨"32"⟩
def yellow : Style := ⟨"33"⟩
def red : Style := ⟨"31"⟩
def cyan : Style := ⟨"36"⟩
def boldRed : Style := ⟨"1;31"⟩
def boldGreen : Style := ⟨"1;32"⟩
def boldYellow : Style := ⟨"1;33"⟩

def opening (style : Style) : List Char := '\x1b' :: '[' :: (style.codes.toList ++ ['m'])
def reset : List Char := ['\x1b', '[', '0', 'm']

/-- Opens a style again after every reset. -/
def reopen (opening : List Char) : List Char → List Char
  | '\x1b' :: '[' :: '0' :: 'm' :: rest => reset ++ opening ++ reopen opening rest
  | c :: rest => c :: reopen opening rest
  | [] => []

end Style

def padRight (width : Nat) (cs : List Char) : List Char :=
  cs ++ List.replicate (width - cs.length) ' '

def padded (width : Nat) (text : String) : String := String.ofList (padRight width text.toList)

namespace Screen

/-- The padding stands between the codes, and what it fills up to counts inner codes too. -/
def paintPadded (screen : Screen) (style : Style) (width : Nat) (text : String) : String :=
  if screen.coloured then
    String.ofList
      (style.opening ++ padRight width (Style.reopen style.opening text.toList) ++ Style.reset)
  else padded width text

def paint (screen : Screen) (style : Style) (text : String) : String :=
  screen.paintPadded style 0 text

end Screen
end JobMatrix
