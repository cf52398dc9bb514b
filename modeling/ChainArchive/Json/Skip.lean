import ChainArchive.Json.Container

namespace ChainArchive.Json

/-! Values nobody asks for are only checked to be well formed: any depth, any number,
any pairing of surrogates. -/

def skipString (text : Bytes) : Except Fault Bytes :=
  match text with
  | [] => .error (.behind .endInString [])
  | b :: rest =>
      if b = byte '"' then .ok rest
      else if b = byte '\\' then
        match rest with
        | [] => .error (.behind .endInString [])
        | e :: rest =>
            if e = byte 'u' then
              match rest with
              | h₁ :: h₂ :: h₃ :: h₄ :: rest =>
                  if (hexUnit? h₁ h₂ h₃ h₄).isSome then skipString rest
                  else .error (.behind .badEscape rest)
              | _ => .error (.behind .endInString [])
            else if (shortEscape? e).isSome then skipString rest
            else .error (.behind .badEscape rest)
      else if b < 32 then .error (.behind .controlCharacter (b :: rest))
      else skipString rest

def skipDigits (text : Bytes) : Option Bytes :=
  match text with
  | [] => none
  | b :: rest => if isDigit b then some (dropDigits rest) else none

def skipExponent (text : Bytes) : Except Fault Bytes :=
  let text := (readSign text).2
  match skipDigits text with
  | some rest => .ok rest
  | none => .error (.behind .badNumber (text.drop 1))

def skipScale (text : Bytes) : Except Fault Bytes :=
  match text with
  | [] => .ok []
  | b :: rest => if isExponentLetter b then skipExponent rest else .ok (b :: rest)

def skipFraction (text : Bytes) : Except Fault Bytes :=
  match skipDigits text with
  | some rest => skipScale rest
  | none => .error (.ahead .badNumber text)

def skipAfterWhole (text : Bytes) : Except Fault Bytes :=
  match text with
  | [] => .ok []
  | b :: rest => if b = byte '.' then skipFraction rest else skipScale (b :: rest)

def skipNumber (text : Bytes) : Except Fault Bytes :=
  match text with
  | [] => .error (.behind .badNumber [])
  | b :: rest =>
      if b = byte '0' then
        if (rest.head?.map isDigit).getD false then .error (.ahead .badNumber rest)
        else skipAfterWhole rest
      else if isDigit b then skipAfterWhole (dropDigits rest)
      else .error (.behind .badNumber rest)

def skipKey (text : Bytes) : Except Fault Bytes :=
  match skipSpace text with
  | [] => .error (.ahead .endInObject [])
  | b :: rest =>
      if b = byte '"' then do
        let rest ← skipString rest
        readColon rest
      else .error (.ahead .keyNotString (b :: rest))

/-! Each step into a value takes a byte within two steps, so that twice the bytes and two
more steps do not run out. -/

mutual

def skipValue : Nat → Bytes → Except Fault Bytes
  | 0, text => .error (.behind .tooDeep text)
  | fuel + 1, text =>
      match skipSpace text with
      | [] => .error (.ahead .endInValue [])
      | b :: rest =>
          if b = byte 'n' then readWord (Bytes.ofString "ull") rest
          else if b = byte 't' then readWord (Bytes.ofString "rue") rest
          else if b = byte 'f' then readWord (Bytes.ofString "alse") rest
          else if b = byte '-' then skipNumber rest
          else if isDigit b then skipNumber (b :: rest)
          else if b = byte '"' then skipString rest
          else if b = byte '[' then skipItems fuel rest
          else if b = byte '\x7b' then skipMembers fuel rest
          else .error (.ahead .valueExpected (b :: rest))

def skipItems : Nat → Bytes → Except Fault Bytes
  | 0, text => .error (.behind .tooDeep text)
  | fuel + 1, text =>
      match skipSpace text with
      | [] => .error (.ahead .endInList [])
      | b :: rest =>
          if b = byte ']' then .ok rest
          else do
            let rest ← skipValue fuel (b :: rest)
            skipMoreItems fuel rest

def skipMoreItems : Nat → Bytes → Except Fault Bytes
  | 0, text => .error (.behind .tooDeep text)
  | fuel + 1, text =>
      match skipSpace text with
      | [] => .error (.ahead .endInList [])
      | b :: rest =>
          if b = byte ']' then .ok rest
          else if b = byte ',' then do
            let rest ← skipValue fuel rest
            skipMoreItems fuel rest
          else .error (.ahead .listCommaExpected (b :: rest))

def skipMembers : Nat → Bytes → Except Fault Bytes
  | 0, text => .error (.behind .tooDeep text)
  | fuel + 1, text =>
      match skipSpace text with
      | [] => .error (.ahead .endInObject [])
      | b :: rest =>
          if b = byte '\x7d' then .ok rest
          else do
            let rest ← skipKey (b :: rest)
            let rest ← skipValue fuel rest
            skipMoreMembers fuel rest

def skipMoreMembers : Nat → Bytes → Except Fault Bytes
  | 0, text => .error (.behind .tooDeep text)
  | fuel + 1, text =>
      match skipSpace text with
      | [] => .error (.ahead .endInObject [])
      | b :: rest =>
          if b = byte '\x7d' then .ok rest
          else if b = byte ',' then do
            let rest ← skipKey rest
            let rest ← skipValue fuel rest
            skipMoreMembers fuel rest
          else .error (.ahead .objectCommaExpected (b :: rest))

end

def skip (text : Bytes) : Except Fault Bytes := skipValue (2 * text.length + 2) text

end ChainArchive.Json
