import Mathlib.Tactic

/-!
# Names of devices

`deviceString` of `ZFDeviceInfo`. A machine identifier that is no key is cut by its last
character and looked up again, which is meant for the keys that leave the minor version
open. Strings are lists of UTF-16 code units, which is what their indexes count.
-/

namespace ZFBaseFramework

abbrev unichar := UInt16

/-- The code units of a text. -/
def codeUnits (text : String) : List unichar :=
  text.toList.flatMap fun character =>
    let code := character.toNat
    if code < 0x10000 then [code.toUInt16]
    else
      [(0xD800 + (code - 0x10000) / 0x400).toUInt16,
        (0xDC00 + (code - 0x10000) % 0x400).toUInt16]

namespace ZFDeviceInfo

/-- `[UIScreen mainScreen]` -/
structure UIScreen where
  width : ℚ
  height : ℚ
  scale : ℚ
  deriving DecidableEq, Repr

def isIphoneX (screen : UIScreen) : Bool :=
  let screenWidth := min screen.width screen.height
  let screenHeight := max screen.width screen.height
  (screenWidth = 375 ∧ screenHeight = 812 ∧ screen.scale = 3) ∨
    (screenWidth = 414 ∧ screenHeight = 896 ∧ screen.scale = 3) ∨
    (screenWidth = 414 ∧ screenHeight = 896 ∧ screen.scale = 2) ∨
    (screenWidth = 375 ∧ screenHeight = 812 ∧ screen.scale = 2)

def deviceDict : List (String × String) :=
  [("iPhone1,1", "iPhone 1G"), ("iPhone1,2", "iPhone 3G"), ("iPhone2,", "iPhone 3GS"),
    ("iPhone3,", "iPhone 4"), ("iPhone4,", "iPhone 4S"), ("iPhone5,1", "iPhone 5"),
    ("iPhone5,2", "iPhone 5"), ("iPhone5,3", "iPhone 5c"), ("iPhone5,4", "iPhone 5c"),
    ("iPhone6,", "iPhone 5s"), ("iPhone7,1", "iPhone 6 Plus"), ("iPhone7,2", "iPhone 6"),
    ("iPhone8,1", "iPhone 6s"), ("iPhone8,2", "iPhone 6s Plus"), ("iPhone8,4", "iPhone SE"),
    ("iPhone9,1", "iPhone 7(CDMA)"), ("iPhone9,2", "iPhone 7 Plus(CDMA)"),
    ("iPhone9,3", "iPhone 7(GSM)"), ("iPhone9,4", "iPhone 7 Plus(GSM)"),
    ("iPhone10,1", "iPhone 8"), ("iPhone10,4", "iPhone 8"), ("iPhone10,2", "iPhone 8 Plus"),
    ("iPhone10,5", "iPhone 8 Plus"), ("iPhone10,3", "iPhone X"), ("iPhone10,6", "iPhone X"),
    ("iPhone11,2", "iPhone XS"), ("iPhone11,4", "iPhone XS Max"), ("iPhone11,6", "iPhone XS Max"),
    ("iPhone11,8", "iPhone XR"), ("iPod1,", "iPod Touch 1G"), ("iPod2,", "iPod Touch 2G"),
    ("iPod3,", "iPod Touch 3G"), ("iPod4,", "iPod Touch 4G"), ("iPod5,", "iPod Touch 5G"),
    ("iPad1,", "iPad 1G"), ("iPad2,1", "iPad 2"), ("iPad2,2", "iPad 2"), ("iPad2,3", "iPad 2"),
    ("iPad2,4", "iPad 2"), ("iPad3,1", "iPad 3"), ("iPad3,2", "iPad 3"), ("iPad3,3", "iPad 3"),
    ("iPad3,4", "iPad 4"), ("iPad3,5", "iPad 4"), ("iPad3,6", "iPad 4"), ("iPad4,1", "iPad Air"),
    ("iPad4,2", "iPad Air"), ("iPad4,3", "iPad Air"), ("iPad5,3", "iPad Air 2"),
    ("iPad5,4", "iPad Air 2"), ("iPad6,7", "iPad Pro 12.9"), ("iPad6,8", "iPad Pro 12.9"),
    ("iPad6,3", "iPad Pro 9.7"), ("iPad6,4", "iPad Pro 9.7"), ("iPad6,11", "iPad 5"),
    ("iPad6,12", "iPad 5"), ("iPad7,1", "iPad Pro 12.9 inch 2nd gen"),
    ("iPad7,2", "iPad Pro 12.9 inch 2nd gen"), ("iPad7,3", "iPad Pro 10.5"),
    ("iPad7,4", "iPad Pro 10.5"), ("iPad7,5", "iPad 6"), ("iPad7,6", "iPad 6"),
    ("iPad2,5", "iPad mini"), ("iPad2,6", "iPad mini"), ("iPad2,7", "iPad mini"),
    ("iPad4,4", "iPad mini 2"), ("iPad4,5", "iPad mini 2"), ("iPad4,6", "iPad mini 2"),
    ("iPad4,7", "iPad mini 3"), ("iPad4,8", "iPad mini 3"), ("iPad4,9", "iPad mini 3"),
    ("iPad5,1", "iPad mini 4"), ("iPad5,2", "iPad mini 4"), ("i386", "Simulator"),
    ("x86_64", "Simulator")]

/-- `objectForKey:` -/
def objectForKey (key : List unichar) : Option String :=
  (deviceDict.find? fun entry => codeUnits entry.1 = key).map Prod.snd

/-- The name listed for a key, if it is not empty. -/
def listedName (key : List unichar) : Option String :=
  (objectForKey key).filter fun deviceName => 0 < deviceName.length

/-- `substringToIndex:` up to the last code unit. There is none to leave out in the empty string,
where `length - 1` wraps around and an exception is raised. -/
def substringToLast : List unichar → Option (List unichar)
  | [] => none
  | units => some units.dropLast

/-- `deviceString` for what `uname` calls the machine; `none` is an exception. -/
def deviceString (screen : UIScreen) (machine : List unichar) : Option (List unichar) :=
  match listedName machine with
  | some deviceName => some (codeUnits deviceName)
  | none =>
      (substringToLast machine).map fun shortened =>
        match listedName shortened with
        | some deviceName => codeUnits deviceName
        | none => if isIphoneX screen then codeUnits "iPhone X" else shortened

end ZFDeviceInfo

end ZFBaseFramework
