import ConditionalForm.Unicode.CharSet

/-! # Case variants

The classes of characters that differ by case only, by the simple case folding of Unicode 16, and
the sets of characters that are closed under them.
-/

namespace ConditionalForm.Unicode

/-- The least character of each class of characters that differ by case only, with each of the
others. -/
def caseVariantTable : String :=
    "41-5A>61 B5>39C C0-D6>E0 D8-DE>F8 DF>1E9E FF>178 100-12E/2>101 132-136/2>133 139-147/2>13A
    14A-176/2>14B 179-17D/2>17A 180>243 181>253 182-184/2>183 186>254 187>188 189-18A>256
    18B>18C 18E>1DD 18F>259 190>25B 191>192 193>260 194>263 195>1F6 196>269 197>268 198>199
    19A>23D 19B>A7DC 19C>26F 19D>272 19E>220 19F>275 1A0-1A4/2>1A1 1A6>280 1A7>1A8 1A9>283
    1AC>1AD 1AE>288 1AF>1B0 1B1-1B2>28A 1B3-1B5/2>1B4 1B7>292 1B8>1B9 1BC>1BD 1BF>1F7 1C4>1C5
    1C7>1C8 1CA>1CB 1CD-1DB/2>1CE 1DE-1EE/2>1DF 1F1>1F2 1F4>1F5 1F8-21E/2>1F9 222-232/2>223
    23A>2C65 23B>23C 23E>2C66 23F-240>2C7E 241>242 244>289 245>28C 246-24E/2>247 250>2C6F
    251>2C6D 252>2C70 25C>A7AB 261>A7AC 264>A7CB 265>A78D 266>A7AA 26A>A7AE 26B>2C62 26C>A7AD
    271>2C6E 27D>2C64 282>A7C5 287>A7B1 29D>A7B2 29E>A7B0 345>399 370-372/2>371 376>377
    37B-37D>3FD 37F>3F3 386>3AC 388-38A>3AD 38C>3CC 38E-38F>3CD 390>1FD3 391-398>3B1
    39A-39B>3BA 39D-3A1>3BD 3A3>3C2 3A4-3AB>3C4 3B0>1FE3 3CF>3D7 3D8-3EE/2>3D9 3F2>3F9 3F7>3F8
    3FA>3FB 400-40F>450 410-42F>430 460-480/2>461 48A-4BE/2>48B 4C0>4CF 4C1-4CD/2>4C2
    4D0-52E/2>4D1 531-556>561 10A0-10C5>2D00 10C7>2D27 10CD>2D2D 10D0-10FA>1C90 10FD-10FF>1CBD
    13A0-13EF>AB70 13F0-13F5>13F8 1C88>A64A 1C89>1C8A 1D79>A77D 1D7D>2C63 1D8E>A7C6
    1E00-1E94/2>1E01 1EA0-1EFE/2>1EA1 1F00-1F07>1F08 1F10-1F15>1F18 1F20-1F27>1F28
    1F30-1F37>1F38 1F40-1F45>1F48 1F51-1F57/2>1F59 1F60-1F67>1F68 1F70-1F71>1FBA
    1F72-1F75>1FC8 1F76-1F77>1FDA 1F78-1F79>1FF8 1F7A-1F7B>1FEA 1F7C-1F7D>1FFA 1F80-1F87>1F88
    1F90-1F97>1F98 1FA0-1FA7>1FA8 1FB0-1FB1>1FB8 1FB3>1FBC 1FC3>1FCC 1FD0-1FD1>1FD8
    1FE0-1FE1>1FE8 1FE5>1FEC 1FF3>1FFC 2132>214E 2160-216F>2170 2183>2184 24B6-24CF>24D0
    2C00-2C2F>2C30 2C60>2C61 2C67-2C6B/2>2C68 2C72>2C73 2C75>2C76 2C80-2CE2/2>2C81
    2CEB-2CED/2>2CEC 2CF2>2CF3 A640-A648/2>A641 A64C-A66C/2>A64D A680-A69A/2>A681
    A722-A72E/2>A723 A732-A76E/2>A733 A779-A77B/2>A77A A77E-A786/2>A77F A78B>A78C
    A790-A792/2>A791 A794>A7C4 A796-A7A8/2>A797 A7B3>AB53 A7B4-A7C2/2>A7B5 A7C7-A7C9/2>A7C8
    A7CC>A7CD A7D0>A7D1 A7D6-A7DA/2>A7D7 A7F5>A7F6 FB05>FB06 FF21-FF3A>FF41 10400-10427>10428
    104B0-104D3>104D8 10570-1057A>10597 1057C-1058A>105A3 1058C-10592>105B3 10594-10595>105BB
    10C80-10CB2>10CC0 10D50-10D65>10D70 118A0-118BF>118C0 16E40-16E5F>16E60 1E900-1E921>1E922
    4B>212A 53>17F B5>3BC C5>212B 1C4>1C6 1C7>1C9 1CA>1CC 1F1>1F3 345>3B9 392>3D0 395>3F5
    398>3D1 39A>3F0 3A0>3D6 3A1>3F1 3A3>3C3 3A6>3D5 3A9>2126 412>1C80 414>1C81 41E>1C82
    421-422>1C83 42A>1C86 462>1C87 1C88>A64B 1E60>1E9B 345>1FBE 398>3F4 422>1C85"

/-- The least character of each class of case variants beside each other member. -/
def caseVariants : List (Nat × Nat) :=
  (TableEntry.ofTable caseVariantTable).flatMap fun e =>
    (List.range ((e.hi - e.lo) / e.stride + 1)).filterMap fun k =>
      let n := e.lo + k * e.stride
      (e.targets.head?).map fun t => (n, t + k * e.stride)

/-- Sorts pairs of code points by the first one. -/
def sortedByFirst (pairs : List (Nat × Nat)) : List (Nat × Nat) :=
  pairs.mergeSort fun a b => a.1 ≤ b.1

def othersOfLeast : List (Nat × Nat) := sortedByFirst caseVariants

def leastOfOthers : List (Nat × Nat) := sortedByFirst (caseVariants.map fun (a, b) => (b, a))

/-- What sorted pairs lead to from the code points of sorted spans. -/
def Span.images : List Span → List (Nat × Nat) → List Span
  | [], _ => []
  | _, [] => []
  | s :: spans, (n, image) :: pairs =>
    if n < s.lo then images (s :: spans) pairs
    else if s.hi < n then images spans ((n, image) :: pairs)
    else .single image :: images (s :: spans) pairs
termination_by spans pairs => spans.length + pairs.length

/-- Adds every case variant of every member. -/
def CharSet.foldCase (s : CharSet) : CharSet :=
  let reached := CharSet.ofSpans (s.spans ++ Span.images s.spans leastOfOthers)
  .ofSpans (reached.spans ++ Span.images reached.spans othersOfLeast)

end ConditionalForm.Unicode
