/-
The direction of text.

Each character of a name belongs to a class by the direction in which it is written.  Among names
of which one is written from right to left every name has to keep to one direction, so that none of
them is shown in an order that misleads.  Main definition: `keepsDirection`.
-/
import AuditReminder.Text.Mark

namespace AuditReminder.Text

/-- The classes of characters by direction. -/
inductive Direction where
  | leftToRight
  | rightToLeft
  | arabicLetter
  | arabicNumber
  | number
  | numberSign
  | numberMark
  | separator
  | neutral
  | boundary
  | mark
  | other
deriving DecidableEq

namespace Direction

/-- The direction that a letter of the table stands for. -/
def ofLetter : List Char → Direction
  | ['=', 'L'] => .leftToRight
  | ['=', 'R'] => .rightToLeft
  | ['=', 'A'] => .arabicLetter
  | ['=', 'N'] => .arabicNumber
  | ['=', 'E'] => .number
  | ['=', 'S'] => .numberSign
  | ['=', 'T'] => .numberMark
  | ['=', 'C'] => .separator
  | ['=', 'O'] => .neutral
  | ['=', 'B'] => .boundary
  | _ => .other

/-- Whether characters of a class are written from right to left. -/
def isRightToLeft (d : Direction) : Bool :=
  d = .rightToLeft || d = .arabicLetter || d = .arabicNumber

/-- Whether a class may stand in names of either direction. -/
def isEither (d : Direction) : Bool :=
  d = .number || d = .numberSign || d = .numberMark || d = .separator || d = .neutral ||
    d = .boundary || d = .mark

end Direction

/-- The directions of the characters that are not written from left to right, nonspacing marks
apart; and of the marks that are. -/
def directionsText : String :=
  "0-8=B 9-d=X e-1b=B 1c-20=X 21-22=O 23-25=T 26-2a=O 2b=S 2c=C 2d=S 2e-2f=C 30-39=E 3a=C 3b-40=O
   5b-60=O 7b-7e=O 7f=B a1=O a2-a5=T a6-a7=O a9=O ab-ac=O ae=O b0-b1=T b6-b7=O bb=O bf=O d7=O
   f7=O 2b9-2ba=O 2c2-2cf=O 2d2-2d7=O 2de-2df=O 2e5-2ed=O 2ef-2ff=O 375=O 3f6=O 58a=O 58d-58e=O
   58f=T 5be=R 5c0=R 5c3=R 5c6=R 5d0-5ea=R 5ef-5f4=R 606-607=O 608=A 609-60a=T 60b=A 60c=C 60d=A
   60e-60f=O 61b=A 61d-64a=A 660-669=N 66a=T 66b-66c=N 66d-66f=A 671-674=A 679-6d5=A 6de=O
   6e5-6e6=A 6e9=O 6ee-6ef=A 6f0-6f9=E 6fa-70d=A 710=A 712-72f=A 74d-7a5=A 7b1=A 7c0-7ea=R
   7f4-7f5=R 7f6-7f9=O 7fa=R 7fe-815=R 81a=R 824=R 828=R 830-83e=R 840-858=R 85e=R 860-86a=A
   870-88e=A 8a0-8c9=A 9f2-9f3=T 9fb=T af1=T bf3-bf8=O bf9=T bfa=O c78-c7e=O cbf=L cc6=L e3f=T
   f3a-f3d=O 1390-1399=O 1400=O 169b-169c=O 17db=T 17f0-17f9=O 1800-180a=O 1940=O 1944-1945=O
   19de-19ff=O 200c-200d=B 2010=O 2012-2016=O 2018-2023=O 2027=O 2030-2032=T 2035=O 2038-203b=O
   203d=O 203f-2043=O 2044=C 2045-2046=O 204a-2056=O 2058-205e=O 20a0-20a7=T 20a9-20c0=T 2104=O
   2108=O 2114=O 2117-2118=O 211e-211f=O 2123=O 2125=O 2127=O 2129=O 212e=T 213a=O 2141-2144=O
   214a-214d=O 218a-218b=O 2190-2211=O 2212=S 2213=T 2214-222b=O 222e=O 2231-2328=O 232b-2335=O
   237b-2394=O 2396-2426=O 2440-244a=O 24eb-26ab=O 26ad-27ff=O 2900-2a0b=O 2a0d-2a73=O
   2a77-2adb=O 2add-2b73=O 2b76-2b95=O 2b97-2bff=O 2ce5-2cea=O 2cf9-2cff=O 2e00-2e5d=O
   2e80-2e99=O 2e9b-2e9e=O 2ea0-2ef2=O 3001=O 3003-3004=O 3008-3020=O 3030=O 3037=O 303d-303f=O
   30a0=O 30fb=O 31c0-31e3=O 4dc0-4dff=O a490-a4c6=O a60d-a60f=O a673=O a67e-a67f=O a700-a721=O
   a788=O a828-a82b=O a838-a839=T a874-a877=O ab6a-ab6b=O fbb2-fbc2=A fd3e-fd4f=O fdcf=O
   fdfd-fdff=O fe45-fe46=O fe73=A 10101=O 10140-1018c=O 10190-1019c=O 101a0=O 102e1-102fb=E
   10800-10805=R 10808=R 1080a-10835=R 10837-10838=R 1083c=R 1083f-10855=R 10857-1089e=R
   108a7-108af=R 108e0-108f2=R 108f4-108f5=R 108fb-1091b=R 1091f=O 10920-10939=R 1093f=R
   10980-109b7=R 109bc-109cf=R 109d2-10a00=R 10a10-10a13=R 10a15-10a17=R 10a19-10a35=R
   10a40-10a48=R 10a50-10a58=R 10a60-10a9f=R 10ac0-10ae4=R 10aeb-10af6=R 10b00-10b35=R
   10b39-10b3f=O 10b40-10b55=R 10b58-10b72=R 10b78-10b91=R 10b99-10b9c=R 10ba9-10baf=R
   10c00-10c48=R 10cc0-10cf2=R 10cfa-10cff=R 10d00-10d23=A 10d30-10d39=N 10e60-10e7e=N
   10e80-10ea9=R 10ead=R 10eb0-10eb1=R 10f00-10f27=R 10f30-10f45=A 10f51-10f59=A 10f70-10f81=R
   10f86-10f89=R 10fb0-10fcb=R 10fe0-10ff6=R 11052-11065=O 11660-1166c=O 11a07-11a08=L 11c3f=L
   11fd5-11fdc=O 11fdd-11fe0=T 11fe1-11ff1=O 16fe2=O 1d1e9-1d1ea=O 1d200-1d241=O 1d245=O
   1d300-1d356=O 1e2ff=T 1e800-1e8c4=R 1e8c7-1e8cf=R 1e922-1e943=R 1e94b=R 1e950-1e959=R
   1e95e-1e95f=R 1ec71-1ecb4=A 1ed01-1ed3d=A 1eef0-1eef1=O 1f000-1f02b=O 1f030-1f093=O
   1f0a0-1f0ae=O 1f0b1-1f0bf=O 1f0c1-1f0cf=O 1f0d1-1f0f5=O 1f10b-1f10f=O 1f12f=O 1f16d-1f16f=O
   1f1ad=O 1f260-1f265=O 1f300-1f6d7=O 1f6dc-1f6ec=O 1f6f0-1f6fc=O 1f700-1f776=O 1f77b-1f7d9=O
   1f7e0-1f7eb=O 1f7f0=O 1f800-1f80b=O 1f810-1f847=O 1f850-1f859=O 1f860-1f887=O 1f890-1f8ad=O
   1f8b0-1f8b1=O 1f900-1fa53=O 1fa60-1fa6d=O 1fa70-1fa7c=O 1fa80-1fa88=O 1fa90-1fabd=O
   1fabf-1fac5=O 1face-1fadb=O 1fae0-1fae8=O 1faf0-1faf8=O 1fb00-1fb92=O 1fb94-1fbca=O"

def directions : CodeTable Direction := .read Direction.ofLetter directionsText

/-- The direction of a character. -/
def direction (c : Char) : Direction :=
  match directions.find? c with
  | some d => d
  | none => if isNonspacing c then .mark else .leftToRight

/-- The directions of a name without the marks at its end, the last one first. -/
def fromLast (ds : List Direction) : List Direction := ds.reverse.dropWhile (· = .mark)

/-- Whether a name keeps to one direction: the direction of its first character, with a letter or a
number at its end, and with numbers of one kind if it is written from right to left. -/
def keepsDirection (name : List Char) : Bool :=
  let ds := name.map direction
  match ds, fromLast ds with
  | [], _ => true
  | .leftToRight :: _, last :: _ =>
      (ds.all fun d => d = .leftToRight || d.isEither) && (last = .leftToRight || last = .number)
  | first :: _, last :: _ =>
      (first = .rightToLeft || first = .arabicLetter) &&
        (ds.all fun d => d.isRightToLeft || d.isEither) &&
        (last.isRightToLeft || last = .number) &&
        !(ds.contains .number && ds.contains .arabicNumber)
  | _, [] => false

/-- Whether each of several names keeps to one direction, if one has anything written from right to
left. -/
def keepDirections (names : List (List Char)) : Bool :=
  !(names.any fun name => name.any fun c => (direction c).isRightToLeft) ||
    names.all keepsDirection

end AuditReminder.Text
