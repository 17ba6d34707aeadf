namespace RenderCore.Hex

def upper (n : Nat) : String :=
  String.ofList ((Nat.toDigits 16 n).map Char.toUpper)

def lower (n : Nat) : String :=
  String.ofList (Nat.toDigits 16 n)

def lowerPadded (width n : Nat) : String :=
  let digits := Nat.toDigits 16 n
  String.ofList (List.replicate (width - digits.length) '0' ++ digits)

def word (n : Nat) : String :=
  "0x" ++ upper n

end RenderCore.Hex
