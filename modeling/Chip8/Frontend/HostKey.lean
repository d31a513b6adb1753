/-! A key of the host that writes a character, or has a control character of its own, is known by that
character, and the other keys by their names. A text of one character names the key of the character;
a longer one has to be the name of a key. The case of ASCII letters does not count. -/

namespace Chip8.Frontend

inductive HostKey where
  /-- The key of a character, a letter being in lower case. -/
  | character (c : Char)
  /-- A key without a character, by its name. -/
  | named (name : String)
  deriving DecidableEq, Repr

namespace HostKey

def escape : HostKey := .character '\x1b'

def pause : HostKey := .character 'p'

def reset : HostKey := .named "f5"

def state : HostKey := .named "f1"

/-- Names of keys that have a control character of their own, or the blank. -/
def controls : List (String × Char) := [
  ("return", '\r'), ("escape", '\x1b'), ("backspace", '\x08'), ("tab", '\t'), ("space", ' '),
  ("delete", '\x7f')]

def mainNames : List String := [
  "caps lock", "print screen", "scroll lock", "break", "insert", "home", "page up", "end", "page down",
  "right", "left", "down", "up", "numlock", "menu", "power", "help", "undo", "sys req", "clear", "euro",
  "left ctrl", "left shift", "left alt", "left meta", "right ctrl", "right shift", "right alt",
  "right meta", "alt gr", "application", "execute", "select", "stop", "again", "cut", "copy", "paste", "find",
  "mute", "volumeup", "volumedown", "alterase", "cancel", "prior", "separator", "out", "oper",
  "clear / again", "crsel", "exsel"]

def padNames : List String := [
  "[0]", "[1]", "[2]", "[3]", "[4]", "[5]", "[6]", "[7]", "[8]", "[9]", "[.]", "[/]", "[*]", "[-]",
  "[+]", "enter", "equals", "keypad 00", "keypad 000", "thousandsseparator", "decimalseparator",
  "currencysubunit", "keypad ,", "keypad = (as400)", "keypad (", "keypad )", "keypad \x7b",
  "keypad \x7d", "keypad tab", "keypad backspace", "keypad a", "keypad b", "keypad c", "keypad d",
  "keypad e", "keypad f", "keypad xor", "keypad ^", "keypad %", "keypad <", "keypad >", "keypad &",
  "keypad &&", "keypad |", "keypad ||", "keypad :", "keypad #", "keypad space", "keypad @", "keypad !",
  "keypad memstore", "keypad memrecall", "keypad memclear", "keypad memadd", "keypad memsubtract",
  "keypad memmultiply", "keypad memdivide", "keypad +/-", "keypad clear", "keypad clearentry",
  "keypad binary", "keypad octal", "keypad decimal", "keypad hexadecimal"]

/-- Keys with more than one name: a further one and the first. -/
def otherNames : List (String × String) := [
  ("capslock", "caps lock"), ("printscreen", "print screen"), ("scrolllock", "scroll lock"),
  ("pause", "break"), ("pageup", "page up"), ("pagedown", "page down"), ("sysreq", "sys req"),
  ("currencyunit", "euro"), ("left gui", "left meta"), ("right gui", "right meta"),
  ("modeswitch", "alt gr"), ("keypad 0", "[0]"), ("keypad 1", "[1]"),
  ("keypad 2", "[2]"), ("keypad 3", "[3]"), ("keypad 4", "[4]"), ("keypad 5", "[5]"),
  ("keypad 6", "[6]"), ("keypad 7", "[7]"), ("keypad 8", "[8]"), ("keypad 9", "[9]"),
  ("keypad .", "[.]"), ("keypad /", "[/]"), ("keypad *", "[*]"), ("keypad -", "[-]"),
  ("keypad +", "[+]"), ("keypad enter", "enter"), ("keypad =", "equals")]

def mediaNames : List String := [
  "audionext", "audioprev", "audiostop", "audioplay", "audiomute", "mediaselect", "www", "mail",
  "calculator", "computer", "ac search", "ac home", "ac back", "ac forward", "ac stop", "ac refresh",
  "ac bookmarks", "brightnessdown", "brightnessup", "displayswitch", "kbdillumtoggle", "kbdillumdown",
  "kbdillumup", "eject", "sleep", "app1", "app2", "audiorewind", "audiofastforward", "softleft",
  "softright", "call", "endcall"]

def isFunctionName (name : String) : Bool :=
  (List.range 24).any fun number => name == "f" ++ toString (number + 1)

def isName (name : String) : Bool :=
  isFunctionName name || mainNames.contains name || padNames.contains name || mediaNames.contains name

def named? (name : String) : Option HostKey :=
  match controls.lookup name with
  | some c => some (.character c)
  | none =>
      let first := (otherNames.lookup name).getD name
      if isName first then some (.named first) else none

/-- The key of the host with a name. No key has the character with the code zero. -/
def ofName? (name : String) : Option HostKey :=
  match name.toLower.toList with
  | [c] => if c = '\x00' then none else some (.character c)
  | _ => named? name.toLower

end HostKey

end Chip8.Frontend
