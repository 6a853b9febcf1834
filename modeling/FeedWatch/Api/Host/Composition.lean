import FeedWatch.Text.CharSet

namespace FeedWatch.Api.Host

open Text

-- The marks by their class, which tells where they stand at the letter. All others have
-- the class 0.
def markClasses : List (Nat × CharSet) := [
  (1, .ofText
    "334-338 1CD4 1CE2-1CE8 20D2-20D3 20D8-20DA 20E5-20E6 20EA-20EB 10A39 16AF0-16AF4 1BC9E
     1D167-1D169"),
  (6, .ofText "16FF0-16FF1"),
  (7, .ofText
    "93C 9BC A3C ABC B3C C3C CBC 1037 1B34 1BE6 1C37 A9B3 110BA 11173 111CA 11236 112E9
     1133B-1133C 11446 114C3 115C0 116B7 1183A 11943 11D42 1E94A"),
  (8, .ofText "3099-309A"),
  (9, .ofText
    "94D 9CD A4D ACD B4D BCD C4D CCD D3B-D3C D4D DCA E3A EBA F84 1039-103A 1714-1715 1734 17D2
     1A60 1B44 1BAA-1BAB 1BF2-1BF3 2D7F A806 A82C A8C4 A953 A9C0 AAF6 ABED 10A3F 11046 11070
     1107F 110B9 11133-11134 111C0 11235 112EA 1134D 113CE-113D0 11442 114C2 115BF 1163F 116B6
     1172B 11839 1193D-1193E 119E0 11A34 11A47 11A99 11C3F 11D44-11D45 11D97 11F41-11F42 1612F"),
  (10, .ofText "5B0"),
  (11, .ofText "5B1"),
  (12, .ofText "5B2"),
  (13, .ofText "5B3"),
  (14, .ofText "5B4"),
  (15, .ofText "5B5"),
  (16, .ofText "5B6"),
  (17, .ofText "5B7"),
  (18, .ofText "5B8 5C7"),
  (19, .ofText "5B9-5BA"),
  (20, .ofText "5BB"),
  (21, .ofText "5BC"),
  (22, .ofText "5BD"),
  (23, .ofText "5BF"),
  (24, .ofText "5C1"),
  (25, .ofText "5C2"),
  (26, .ofText "FB1E"),
  (27, .ofText "64B 8F0"),
  (28, .ofText "64C 8F1"),
  (29, .ofText "64D 8F2"),
  (30, .ofText "618 64E"),
  (31, .ofText "619 64F"),
  (32, .ofText "61A 650"),
  (33, .ofText "651"),
  (34, .ofText "652"),
  (35, .ofText "670"),
  (36, .ofText "711"),
  (84, .ofText "C55"),
  (91, .ofText "C56"),
  (103, .ofText "E38-E39"),
  (107, .ofText "E48-E4B"),
  (118, .ofText "EB8-EB9"),
  (122, .ofText "EC8-ECB"),
  (129, .ofText "F71"),
  (130, .ofText "F72 F7A-F7D F80"),
  (132, .ofText "F74"),
  (202, .ofText "321-322 327-328 1DD0"),
  (214, .ofText "1DCE"),
  (216, .ofText "31B F39 1D165-1D166 1D16E-1D172"),
  (218, .ofText "1DFA 302A"),
  (220, .ofText
    "316-319 31C-320 323-326 329-333 339-33C 347-349 34D-34E 353-356 359-35A 591 596 59B 5A2-5A7
     5AA 5C5 655-656 65C 65F 6E3 6EA 6ED 731 734 737-739 73B-73C 73E 742-748/2 7F2 7FD 859-85B
     899-89B 8CF-8D3 8E3 8E6 8E9 8ED-8EF 8F6 8F9-8FA 952 F18-F19 F35 F37 FC6 108D 193B 1A18 1A7F
     1AB5-1ABA 1ABD 1ABF-1AC0 1AC3-1AC4 1ACA 1ADD 1AE6 1B6C 1CD5-1CD9 1CDC-1CDF 1CED 1DC2 1DCA
     1DCF 1DF9 1DFD 1DFF 20E8 20EC-20EF A92B-A92D AAB4 FE27-FE2D 101FD 102E0 10A0D 10A3A 10AE6
     10EFA-10EFB 10EFD-10EFF 10F46-10F47 10F4B 10F4D-10F50 10F83 10F85 1D17B-1D182 1D18A-1D18B
     1E4EE 1E5EF 1E8D0-1E8D6"),
  (222, .ofText "59A 5AD 1939 302D"),
  (224, .ofText "302E-302F"),
  (226, .ofText "1D16D"),
  (228, .ofText "5AE 18A9 1DF7-1DF8 302B"),
  (230, .ofText
    "300-314 33D-344 346 34A-34C 350-352 357 35B 363-36F 483-487 592-595 597-599 59C-5A1 5A8-5A9
     5AB-5AC 5AF 5C4 610-617 653-654 657-65B 65D-65E 6D6-6DC 6DF-6E2 6E4 6E7-6E8 6EB-6EC 730
     732-733 735-736 73A 73D 73F-741 743-747/2 749-74A 7EB-7F1 7F3 816-819 81B-823 825-827
     829-82D 897-898 89C-89F 8CA-8CE 8D4-8E1 8E4-8E5 8E7-8E8 8EA-8EC 8F3-8F5 8F7-8F8 8FB-8FF 951
     953-954 9FE F82-F83 F86-F87 135D-135F 17DD 193A 1A17 1A75-1A7C 1AB0-1AB4 1ABB-1ABC
     1AC1-1AC2 1AC5-1AC9 1ACB-1ADC 1AE0-1AE5 1AE7-1AEA 1B6B 1B6D-1B73 1CD0-1CD2 1CDA-1CDB 1CE0
     1CF4 1CF8-1CF9 1DC0-1DC1 1DC3-1DC9 1DCB-1DCC 1DD1-1DF5 1DFB 1DFE 20D0-20D1 20D4-20D7
     20DB-20DC 20E1 20E7 20E9 20F0 2CEF-2CF1 2DE0-2DFF A66F A674-A67D A69E-A69F A6F0-A6F1
     A8E0-A8F1 AAB0 AAB2-AAB3 AAB7-AAB8 AABE-AABF AAC1 FE20-FE26 FE2E-FE2F 10376-1037A 10A0F
     10A38 10AE5 10D24-10D27 10D69-10D6D 10EAB-10EAC 10F48-10F4A 10F4C 10F82 10F84 11100-11102
     11366-11374 1145E 16B30-16B36 1D185-1D189 1D1AA-1D1AD 1D242-1D244 1E000-1E02A 1E08F
     1E130-1E136 1E2AE 1E2EC-1E2EF 1E4EF 1E5EE 1E6E3 1E6E6 1E6EE-1E6EF 1E6F5 1E944-1E949"),
  (232, .ofText "315 31A 358 1DF6 302C 1E4EC-1E4ED"),
  (233, .ofText "35C 35F 362 1DFC"),
  (234, .ofText "35D-35E 360-361 1AEB 1DCD")]

def markClass (c : Char) : Nat :=
  if c.toNat < 0x80 then 0
  else ((markClasses.find? fun (_, marks) => marks.contains c).map Prod.fst).getD 0

-- Puts a mark behind the marks of lower classes that follow it.
def insertMark (c : Char) : List Char → List Char
  | [] => [c]
  | d :: rest =>
    if 0 < markClass d && markClass d < markClass c then d :: insertMark c rest else c :: d :: rest

-- The text with the marks of each letter in the order of their classes.
def sortMarks (s : List Char) : List Char := s.foldr insertMark []

-- The second characters of pairs that have one character of their own, or another pair
-- because the first character holds a mark that would come after. With each of them the
-- characters that stand first.
def rewrittenPairs : List (Nat × CharSet) := [
  (0x300, .ofText
    "61 65 69 6E-6F 75-79/2 E2 EA F4 FC 103 113 14D 1A1 1B0 3B1 3B5-3B9/2 3BF 3C5 3C9-3CB 435
     438 1F00-1F01 1F10-1F11 1F20-1F21 1F30-1F31 1F40-1F41 1F50-1F51 1F60-1F61"),
  (0x301, .ofText
    "61-69/2 6B-70 72-73 75 77 79-7A E2 E5-E7 EA EF F4-F5 F8 FC 103 113 14D 169 1A1 1B0 3B1
     3B5-3B9/2 3BF 3C5 3C9-3CB 433 43A 1F00-1F01 1F10-1F11 1F20-1F21 1F30-1F31 1F40-1F41
     1F50-1F51 1F60-1F61"),
  (0x302, .ofText "61-65/2 67-6A 6F 73-77/2 79-7A 1EA1 1EB9 1ECD"),
  (0x303, .ofText "61 65 69 6E-6F 75-76 79 E2 EA F4 103 1A1 1B0"),
  (0x304, .ofText "61 65-69/2 6F 75 79 E4 E6 F5-F6 FC 1EB 227 22F 3B1 3B9 3C5 438 443 1E37 1E5B"),
  (0x306, .ofText "61 65-69/2 6F 75 229 3B1 3B9 3C5 430 435-436 438 443 1EA1"),
  (0x307, .ofText "61-68 6D-70 72-74 77-7A 15B 161 1E63 105D2 105DA"),
  (0x308, .ofText
    "61 65 68-69 6F 74-75 77-79 F5 16B 3B9 3C5 430 435-438 43E 443 447 44B 44D 456 4D9 4E9"),
  (0x309, .ofText "61 65 69 6F 75 79 E2 EA F4 103 1A1 1B0"),
  (0x30A, .ofText "61 75-79/2"),
  (0x30B, .ofText "6F 75 443"),
  (0x30C, .ofText "61 63-65 67-6C 6E-6F 72-75 7A FC 292"),
  (0x30F, .ofText "61 65 69 6F 72 75 475"),
  (0x311, .ofText "61 65 69 6F 72 75"),
  (0x313, .ofText "3B1 3B5-3B9/2 3BF 3C1 3C5 3C9"),
  (0x314, .ofText "3B1 3B5-3B9/2 3BF 3C1 3C5 3C9"),
  (0x31B, .ofText
    "6F 75 F2-F6 F9-FC 14D-151/2 169-171/2 1D2-1DC/2 20D 20F 215 217 22B-231/2 1E4D-1E53/2
     1E73-1E7B/2 1ECD-1ED9/2 1EE5 1EE7"),
  (0x323, .ofText
    "61-62 64-65 68-69 6B-6F 72-77 79-7A E0-E5 E8-EF F1-F6 F9-FD FF-103/2 10F 113-117/2 11B 125
     129-12D/2 13A 13E 144 148 14D-151/2 155 159-15D/2 161 165 169-171/2 175 177 17A-17E/2 1A1
     1B0 1CE-1DC/2 1DF 1E1 1E9 1F9 1FB 201-217/2 21F 227 22B-233/2 1E03 1E0B 1E15 1E17 1E23 1E27
     1E2F 1E31 1E3F 1E41 1E45 1E4D-1E53/2 1E59 1E61 1E65 1E67 1E6B 1E79-1E7D/2 1E81-1E87/2 1E8F
     1E91 1E97-1E99 1EA3-1EAB/2 1EAF-1EB5/2 1EBB-1EC5/2 1EC9 1ECF-1ED7/2 1EDB-1EE1/2 1EE7-1EEF/2
     1EF3 1EF7 1EF9"),
  (0x324, .ofText "75 F9-FC 169-171/2 1D4-1DC/2 215 217 1E79 1E7B 1EE7"),
  (0x325, .ofText "61 E0-E5 101 103 1CE 1DF 1E1 1FB 201 203 227 1EA3-1EAB/2 1EAF-1EB5/2"),
  (0x326, .ofText "73-74 15B 15D 161 165 1E61 1E65 1E67 1E6B 1E97"),
  (0x327, .ofText
    "63-65 67-68 6B-6C 6E 72-74 E8-EB F1 107-10F/2 113-117/2 11B-121/2 125 13A 13E 144 148 155
     159-15D/2 161 165 1E7 1E9 1F5 1F9 205 207 211 213 219 21B 21F 1E0B-1E0F/2 1E13-1E1B/2
     1E21-1E27/2 1E2B 1E31-1E3D/2 1E45-1E4B/2 1E59-1E71/2 1E96-1E97 1EB9-1EC7/2"),
  (0x328, .ofText
    "61 65 69 6F 75 E0-E5 E8-EF F2-F6 F9-FC 101 103 113-117/2 11B 129-12D/2 14D-151/2 169-171/2
     1A1 1B0 1CE-1DC/2 1DF 1E1 1FB 201-20F/2 215 217 227 22B-231/2 1E01 1E15-1E1B/2 1E2D 1E2F
     1E4D-1E53/2 1E73-1E7B/2 1EA1-1EF1/2"),
  (0x32D, .ofText
    "64-65 6C 6E 74-75 E8-EB F1 F9-FC 10F 113-117/2 11B 13A 13E 144 148 165 169-171/2 1D4-1DC/2
     1F9 205 207 215 217 1E0B 1E15 1E17 1E45 1E6B 1E79 1E7B 1E97 1EBB-1EC5/2 1EE7"),
  (0x32E, .ofText "68 125 21F 1E23 1E27"),
  (0x330, .ofText
    "65 69 75 E8-EF F9-FC 113-117/2 11B 129-12D/2 169-171/2 1D0 1D4-1DC/2 205-20B/2 215 217 1E15
     1E17 1E2F 1E79 1E7B 1EBB-1EC5/2 1EC9 1EE7"),
  (0x331, .ofText
    "62 64 68 6B-6C 6E 72 74 7A F1 10F 125 13A 13E 144 148 155 159 165 17A-17E/2 1E9 1F9 211 213
     21F 1E03 1E0B 1E23 1E27 1E31 1E45 1E59 1E6B 1E91 1E97"),
  (0x338, .ofText
    "3C-3E 2190-2194/2 21D0-21D4/2 2203 2208 220B 2223 2225 223C 2243 2245 2248 224D 2261
     2264-2265 2272-2273 2276-2277 227A-227D 2282-2283 2286-2287 2291-2292 22A2 22A8-22A9 22AB
     22B2-22B5"),
  (0x342, .ofText "3B1 3B7 3B9 3C5 3C9-3CB 1F00-1F01 1F20-1F21 1F30-1F31 1F50-1F51 1F60-1F61"),
  (0x653, .ofText "627"),
  (0x654, .ofText "627 648 64A 6C1 6D2 6D5"),
  (0x655, .ofText "622-623 627"),
  (0x93C, .ofText "928 930 933"),
  (0x9BE, .ofText "9C7"),
  (0x9D7, .ofText "9C7"),
  (0xB3E, .ofText "B47"),
  (0xB56, .ofText "B47"),
  (0xB57, .ofText "B47"),
  (0xBBE, .ofText "BC6-BC7"),
  (0xBD7, .ofText "B92 BC6"),
  (0xC56, .ofText "C46"),
  (0xCC2, .ofText "CC6"),
  (0xCD5, .ofText "CBF CC6 CCA"),
  (0xCD6, .ofText "CC6"),
  (0xD3E, .ofText "D46-D47"),
  (0xD57, .ofText "D46"),
  (0xDCA, .ofText "DD9 DDC"),
  (0xDCF, .ofText "DD9"),
  (0xDDF, .ofText "DD9"),
  (0x102E, .ofText "1025"),
  (0x1B35, .ofText "1B05-1B0D/2 1B11 1B3A 1B3C 1B3E-1B3F 1B42"),
  (0x3099, .ofText
    "3046 304B-3061/2 3064-3068/2 306F 3072 3075 3078 307B 309D 30A6 30AB-30C1/2 30C4-30C8/2
     30CF 30D2 30D5 30D8 30DB 30EF-30F2 30FD"),
  (0x309A, .ofText "306F 3072 3075 3078 307B 30CF 30D2 30D5 30D8 30DB"),
  (0x110BA, .ofText "11099 1109B 110A5"),
  (0x11127, .ofText "11131-11132"),
  (0x1133E, .ofText "11347"),
  (0x11357, .ofText "11347"),
  (0x113B8, .ofText "113C2"),
  (0x113BB, .ofText "11384"),
  (0x113C2, .ofText "1138B 113C2"),
  (0x113C9, .ofText "11382 11390 113C2"),
  (0x114B0, .ofText "114B9"),
  (0x114BA, .ofText "114B9"),
  (0x114BD, .ofText "114B9"),
  (0x115AF, .ofText "115B8-115B9"),
  (0x11930, .ofText "11935"),
  (0x1611E, .ofText "1611E"),
  (0x1611F, .ofText "1611E 16121-16122 16129"),
  (0x16120, .ofText "1611E 16121"),
  (0x16129, .ofText "1611E"),
  (0x16D67, .ofText "16D63 16D67 16D69")]

def isHangulPair (first second : Nat) : Bool :=
  (0x1100 ≤ first && first ≤ 0x1112 && 0x1161 ≤ second && second ≤ 0x1175) ||
    (0xAC00 ≤ first && first ≤ 0xD7A3 && (first - 0xAC00) % 28 = 0 &&
      0x11A8 ≤ second && second ≤ 0x11C2)

def isRewritten (first second : Char) : Bool :=
  isHangulPair first.toNat second.toNat ||
    rewrittenPairs.any fun (n, firsts) => n = second.toNat && firsts.contains first

-- No pair is written otherwise, and the marks are in order. `letter` is the last
-- character of class 0, and `last` the class of the character just before.
def isComposedAfter (letter : Option Char) (last : Nat) : List Char → Bool
  | [] => true
  | c :: rest =>
    let k := markClass c
    let isFree := last = 0 || last < k
    (k = 0 || last ≤ k) && !(isFree && letter.any (isRewritten · c)) &&
      (if k = 0 then isComposedAfter (some c) 0 rest else isComposedAfter letter k rest)

def isComposed (s : List Char) : Bool := isComposedAfter none 0 s

end FeedWatch.Api.Host
