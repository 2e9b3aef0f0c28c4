import ApprovalDesk.Text.Charset.Gb18030.Table
import ApprovalDesk.Text.Charset.Sequence

/-!
# The Chinese character set

GB 18030, of which GBK is a part: a character takes one byte, two bytes, or four, where the second and
the fourth byte are digits. The characters of four bytes are in the order of their code points; but for
a few they are those that have no shorter form.
-/

namespace ApprovalDesk.Text.Charset

set_option autoImplicit false

/-- Where the numbers of the characters of four bytes leave out code points: the number and the code
point from which both go on together. -/
def gbStarts : List (Nat × Nat) := (words
    "0:80 36:A5 38:A9 45:B2 50:B8 81:D8 89:E2 95:EB 96:EE 100:F4 103:F8 104:FB 105:FD 109:102
    126:114 133:11C 148:12C 172:145 175:149 179:14E 208:16C 306:1CF 307:1D1 308:1D3 309:1D5
    310:1D7 311:1D9 312:1DB 313:1DD 341:1FA 428:252 443:262 544:2C8 545:2CC 558:2DA 741:3A2
    742:3AA 749:3C2 750:3CA 805:402 819:450 820:452 7922:2011 7924:2017 7925:201A 7927:201E
    7934:2027 7943:2031 7944:2034 7945:2036 7950:203C 8062:20AD 8148:2104 8149:2106 8152:210A
    8164:2117 8174:2122 8236:216C 8240:217A 8262:2194 8264:219A 8374:2209 8380:2210 8381:2212
    8384:2216 8388:221B 8390:2221 8392:2224 8393:2226 8394:222C 8396:222F 8401:2238 8406:223E
    8416:2249 8419:224D 8424:2253 8437:2262 8439:2268 8445:2270 8482:2296 8485:229A 8496:22A6
    8521:22C0 8603:2313 8936:246A 8946:249C 9046:254C 9050:2574 9063:2590 9066:2596 9076:25A2
    9092:25B4 9100:25BE 9108:25C8 9111:25CC 9113:25D0 9131:25E6 9162:2607 9164:260A 9218:2641
    9219:2643 11329:2E82 11331:2E85 11334:2E89 11336:2E8D 11346:2E98 11361:2EA8 11363:2EAB
    11366:2EAF 11370:2EB4 11372:2EB8 11375:2EBC 11389:2ECB 11682:2FFC 11686:3004 11687:3018
    11692:301F 11694:302A 11714:303F 11716:3094 11723:309F 11725:30F7 11730:30FF 11736:312A
    11982:322A 11989:3232 12102:32A4 12336:3390 12348:339F 12350:33A2 12384:33C5 12393:33CF
    12395:33D3 12397:33D6 12510:3448 12553:3474 12851:359F 12962:360F 12973:361B 13738:3919
    13823:396F 13919:39D1 13933:39E0 14080:3A74 14298:3B4F 14585:3C6F 14698:3CE1 15583:4057
    15847:4160 16318:4338 16434:43AD 16438:43B2 16481:43DE 16729:44D7 17102:464D 17122:4662
    17315:4724 17320:472A 17402:477D 17418:478E 17859:4948 17909:497B 17911:497E 17915:4984
    17916:4987 17936:499C 17939:49A0 17961:49B8 18664:4C78 18703:4CA4 18814:4D1A 18962:4DAF
    19043:9FA6 33469:E76C 33470:E7C8 33471:E7E7 33484:E815 33485:E819 33490:E81F 33497:E827
    33501:E82D 33505:E833 33513:E83C 33520:E844 33536:E856 33550:E865 37845:F92D 37921:F97A
    37948:F996 38029:F9E8 38038:F9F2 38064:FA10 38065:FA12 38066:FA15 38069:FA19 38075:FA22
    38076:FA25 38078:FA2A 39108:FE32 39109:FE45 39113:FE53 39114:FE58 39115:FE67 39116:FE6C
    39265:FF5F 39394:FFE6 189000:10000".toList).filterMap fun w =>
  (Decimal.number? (w.takeWhile (· != ':'))).bind fun n =>
    (Hex.number? ((w.dropWhile (· != ':')).drop 1)).map fun code => (n, code)

/-- The number of a character that has its place apart. -/
def gbApart : Nat × Char := (7457, '\uE7C7')

/-- The character of four bytes with a number. -/
def gbQuadChar? (n : Nat) : Option Char :=
  if 39419 < n ∧ n < 189000 ∨ 1237575 < n then none
  else if n = gbApart.1 then some gbApart.2
  else (gbStarts.reverse.find? (·.1 ≤ n)).map fun start => Char.ofNat (start.2 + (n - start.1))

/-- The character of a lead byte and the byte after it. -/
def gbPair (lead b : UInt8) : Option (List Char) :=
  (placeInTwo? 0x40 0x7E 0x80 0xFE b).bind fun column =>
    (gbPairs.char? ((lead.toNat - 0x81) * 190 + column)).map fun c => [c]

/-- A lead byte of any kind. -/
def isGbLead (b : UInt8) : Bool := 0x81 ≤ b && b ≤ 0xFE

/-- What a lead byte and the digit `second` stand for with the bytes after them. Where no digit ends
the sequence, only the lead byte is lost. -/
def gbQuad (lead : UInt8) (second : Nat) : List UInt8 → List Char × Nat
  | [] => ([unknown], 1)
  | third :: rest =>
    if !isGbLead third then ([unknown], 0)
    else match rest with
      | [] => ([unknown], 2)
      | b :: _ =>
        match placeIn? 0x30 0x39 b with
        | none => ([unknown], 0)
        | some fourth =>
          let n := (((lead.toNat - 0x81) * 10 + second) * 126 + (third.toNat - 0x81)) * 10 + fourth
          ([(gbQuadChar? n).getD unknown], 3)

/-- The rule of GB 18030. -/
def gb18030Rule : Rule := fun b rest =>
  if b < 0x80 then ascii b
  else if b == 0x80 then single '\u20AC'
  else if !isGbLead b then single unknown
  else match rest.head?.bind (placeIn? 0x30 0x39) with
    | some second => gbQuad b second (rest.drop 1)
    | none => readPair (gbPair b) rest

end ApprovalDesk.Text.Charset
