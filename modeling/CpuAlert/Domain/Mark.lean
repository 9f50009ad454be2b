import CpuAlert.Text.Table

/-!
# Marks

A mark belongs to the character before it. Marks that take no place of their own
stand above, below or across it, and each has a combining class: marks of
different classes do not touch, so their order does not matter, while marks of
the same class stack up in their order. Class zero goes with everything that
does not combine. The tables hold the characters that a domain name may have.

## Main definitions

* `Domain.MarkKind`, `Domain.markKind` — how a character combines
* `Domain.combiningClass` — the class of a mark
-/

namespace CpuAlert.Domain

open Text (Steps hexNumber)

/-- How a character combines: it is no mark, or a mark with a place of its own,
or one without. -/
inductive MarkKind
  | base
  | spacing
  | nonspacing
  deriving DecidableEq, Repr

/-- The code points at which the kind changes: `n` stands for a mark without a
place of its own, `s` for one with it. -/
def markKinds : String := "
  300:n 371:- 483:n 48B:- 591:n 5BE:- 5BF:n 5C0:- 5C1:n 5C3:- 5C4:n 5C6:- 5C7:n 5D0:- 610:n 61B:-
  64B:n 660:- 670:n 671:- 6D6:n 6DE:- 6DF:n 6E5:- 6E7:n 6E9:- 6EA:n 6EE:- 711:n 712:- 730:n 74D:-
  7A6:n 7B1:- 7EB:n 7F4:- 7FD:n 7FE:- 816:n 81A:- 81B:n 824:- 825:n 828:- 829:n 830:- 859:n 85E:-
  897:n 8A0:- 8CA:n 903:s 904:- 93A:n 93B:s 93C:n 93D:- 93E:s 941:n 949:s 94D:n 94E:s 950:- 951:n
  960:- 962:n 964:- 981:n 982:s 985:- 9BC:n 9BD:- 9BE:s 9C1:n 9C7:s 9CD:n 9CE:- 9D7:s 9E0:- 9E2:n
  9E6:- 9FE:n A03:s A05:- A3C:n A3E:s A41:n A5C:- A70:n A72:- A75:n A76:- A81:n A83:s A85:- ABC:n
  ABD:- ABE:s AC1:n AC9:s ACD:n AD0:- AE2:n AE6:- AFA:n B02:s B05:- B3C:n B3D:- B3E:s B3F:n B40:s
  B41:n B47:s B4D:n B57:s B5F:- B62:n B66:- B82:n B83:- BBE:s BC0:n BC1:s BCD:n BD0:- BD7:s BE6:-
  C00:n C01:s C04:n C05:- C3C:n C3D:- C3E:n C41:s C46:n C58:- C62:n C66:- C81:n C82:s C84:- CBC:n
  CBD:- CBE:s CBF:n CC0:s CC6:n CC7:s CCC:n CD5:s CDC:- CE2:n CE6:- CF3:s D00:n D02:s D04:- D3B:n
  D3D:- D3E:s D41:n D46:s D4D:n D4E:- D57:s D58:- D62:n D66:- D81:n D82:s D85:- DCA:n DCF:s DD2:n
  DD8:s DE6:- DF2:s DF4:- E31:n E32:- E34:n E3F:- E47:n E4F:- EB1:n EB2:- EB4:n EBD:- EC8:n ED0:-
  F18:n F1A:- F35:n F36:- F37:n F38:- F39:n F3A:- F3E:s F40:- F71:n F7F:s F80:n F85:- F86:n F88:-
  F8D:n FBE:- FC6:n FC7:- 102B:s 102D:n 1031:s 1032:n 1038:s 1039:n 103B:s 103D:n 103F:- 1056:s
  1058:n 105A:- 105E:n 1061:- 1062:s 1065:- 1067:s 106E:- 1071:n 1075:- 1082:n 1083:s 1085:n
  1087:s 108D:n 108E:- 108F:s 1090:- 109A:s 109D:n 109E:- 135D:n 1360:- 1712:n 1715:s 171F:-
  1732:n 1734:s 1735:- 1752:n 1760:- 1772:n 1780:- 17B6:s 17B7:n 17BE:s 17C6:n 17C7:s 17C9:n
  17D4:- 17DD:n 17E0:- 1885:n 1887:- 18A9:n 18AA:- 1920:n 1923:s 1927:n 1929:s 1932:n 1933:s
  1939:n 1940:- 1A17:n 1A19:s 1A1B:n 1A1E:- 1A55:s 1A56:n 1A57:s 1A58:n 1A61:s 1A62:n 1A63:s
  1A65:n 1A6D:s 1A73:n 1A80:- 1AB0:n 1B04:s 1B05:- 1B34:n 1B35:s 1B36:n 1B3B:s 1B3C:n 1B3D:s
  1B42:n 1B43:s 1B45:- 1B6B:n 1B74:- 1B80:n 1B82:s 1B83:- 1BA1:s 1BA2:n 1BA6:s 1BA8:n 1BAA:s
  1BAB:n 1BAE:- 1BE6:n 1BE7:s 1BE8:n 1BEA:s 1BED:n 1BEE:s 1BEF:n 1BF2:s 1BFC:- 1C24:s 1C2C:n
  1C34:s 1C36:n 1C3B:- 1CD0:n 1CD3:- 1CD4:n 1CE1:s 1CE2:n 1CE9:- 1CED:n 1CEE:- 1CF4:n 1CF5:-
  1CF7:s 1CF8:n 1CFA:- 1DC0:n 1E01:- 20D0:n 2104:- 2CEF:n 2CF3:- 2D7F:n 2D80:- 2DE0:n 2E00:-
  302A:n 302E:s 3030:- 3099:n 309D:- A66F:n A673:- A674:n A67E:- A69E:n A6A0:- A6F0:n A6F2:-
  A802:n A803:- A806:n A807:- A80B:n A80C:- A823:s A825:n A827:s A828:- A82C:n A830:- A880:s
  A882:- A8B4:s A8C4:n A8CE:- A8E0:n A8F2:- A8FF:n A900:- A926:n A92E:- A947:n A952:s A95F:-
  A980:n A983:s A984:- A9B3:n A9B4:s A9B6:n A9BA:s A9BC:n A9BE:s A9C1:- A9E5:n A9E6:- AA29:n
  AA2F:s AA31:n AA33:s AA35:n AA40:- AA43:n AA44:- AA4C:n AA4D:s AA50:- AA7B:s AA7C:n AA7D:s
  AA7E:- AAB0:n AAB1:- AAB2:n AAB5:- AAB7:n AAB9:- AABE:n AAC0:- AAC1:n AAC2:- AAEB:s AAEC:n
  AAEE:s AAF0:- AAF5:s AAF6:n AB01:- ABE3:s ABE5:n ABE6:s ABE8:n ABE9:s ABEB:- ABEC:s ABED:n
  ABF0:- FB1E:n FBB2:- FE20:n FE45:- 101FD:n 10280:- 102E0:n 102E1:- 10376:n 10380:- 10A01:n
  10A10:- 10A38:n 10A40:- 10AE5:n 10AEB:- 10D24:n 10D30:- 10D69:n 10D6E:- 10EAB:n 10EAD:- 10EFA:n
  10F00:- 10F46:n 10F51:- 10F82:n 10F86:- 11000:s 11001:n 11002:s 11003:- 11038:n 11047:- 11070:n
  11071:- 11073:n 11075:- 1107F:n 11082:s 11083:- 110B0:s 110B3:n 110B7:s 110B9:n 110BB:- 110C2:n
  110D0:- 11100:n 11103:- 11127:n 1112C:s 1112D:n 11136:- 11145:s 11147:- 11173:n 11174:- 11180:n
  11182:s 11183:- 111B3:s 111B6:n 111BF:s 111C1:- 111C9:n 111CD:- 111CE:s 111CF:n 111D0:- 1122C:s
  1122F:n 11232:s 11234:n 11235:s 11236:n 11238:- 1123E:n 1123F:- 11241:n 11280:- 112DF:n 112E0:s
  112E3:n 112F0:- 11300:n 11302:s 11305:- 1133B:n 1133D:- 1133E:s 11340:n 11341:s 11350:- 11357:s
  1135D:- 11362:s 11366:n 11380:- 113B8:s 113BB:n 113C2:s 113CE:n 113CF:s 113D0:n 113D1:- 113D2:n
  113D3:- 113E1:n 11400:- 11435:s 11438:n 11440:s 11442:n 11445:s 11446:n 11447:- 1145E:n 1145F:-
  114B0:s 114B3:n 114B9:s 114BA:n 114BB:s 114BF:n 114C1:s 114C2:n 114C4:- 115AF:s 115B2:n 115B8:s
  115BC:n 115BE:s 115BF:n 115C1:- 115DC:n 11600:- 11630:s 11633:n 1163B:s 1163D:n 1163E:s 1163F:n
  11641:- 116AB:n 116AC:s 116AD:n 116AE:s 116B0:n 116B6:s 116B7:n 116B8:- 1171D:n 1171E:s 1171F:n
  11720:s 11722:n 11726:s 11727:n 11730:- 1182C:s 1182F:n 11838:s 11839:n 1183B:- 11930:s 1193B:n
  1193D:s 1193E:n 1193F:- 11940:s 11941:- 11942:s 11943:n 11944:- 119D1:s 119D4:n 119DC:s 119E0:n
  119E1:- 119E4:s 11A00:- 11A01:n 11A0B:- 11A33:n 11A39:s 11A3A:- 11A3B:n 11A3F:- 11A47:n 11A50:-
  11A51:n 11A57:s 11A59:n 11A5C:- 11A8A:n 11A97:s 11A98:n 11A9A:- 11B60:n 11B61:s 11B62:n 11B65:s
  11B66:n 11B67:s 11BC0:- 11C2F:s 11C30:n 11C3E:s 11C3F:n 11C40:- 11C92:n 11CA9:s 11CAA:n 11CB1:s
  11CB2:n 11CB4:s 11CB5:n 11D00:- 11D31:n 11D46:- 11D47:n 11D50:- 11D8A:s 11D90:n 11D93:s 11D95:n
  11D96:s 11D97:n 11D98:- 11EF3:n 11EF5:s 11EF7:- 11F00:n 11F02:- 11F03:s 11F04:- 11F34:s 11F36:n
  11F3E:s 11F40:n 11F41:s 11F42:n 11F43:- 11F5A:n 11FB0:- 13440:n 13441:- 13447:n 13460:- 1611E:n
  1612A:s 1612D:n 16130:- 16AF0:n 16AF5:- 16B30:n 16B37:- 16F4F:n 16F50:- 16F51:s 16F8F:n 16F93:-
  16FE4:n 16FF0:s 16FF2:- 1BC9D:n 1BC9F:- 1CF00:n 1CF50:- 1D165:s 1D167:n 1D16A:- 1D16D:s 1D17B:n
  1D183:- 1D185:n 1D18C:- 1D1AA:n 1D1AE:- 1D242:n 1D245:- 1DA00:n 1DA37:- 1DA3B:n 1DA6D:- 1DA75:n
  1DA76:- 1DA84:n 1DA85:- 1DA9B:n 1DF00:- 1E000:n 1E100:- 1E130:n 1E137:- 1E2AE:n 1E2C0:- 1E2EC:n
  1E2F0:- 1E4EC:n 1E4F0:- 1E5EE:n 1E5F0:- 1E6E3:n 1E6E4:- 1E6E6:n 1E6E7:- 1E6EE:n 1E6F0:- 1E6F5:n
  1E6FE:- 1E8D0:n 1E922:- 1E944:n 1E94B:-"

/-- The code points of marks at which the combining class changes. -/
def markClasses : String := "
  300:E6 315:E8 316:DC 31A:E8 31B:D8 31C:DC 321:CA 323:DC 327:CA 329:DC 334:1 339:DC 33D:E6 347:DC
  34A:E6 34D:DC 350:E6 353:DC 357:E6 358:E8 359:DC 35B:E6 35C:E9 35D:EA 35F:E9 360:EA 362:E9
  363:E6 488:0 591:DC 592:E6 596:DC 597:E6 59A:DE 59B:DC 59C:E6 5A2:DC 5A8:E6 5AA:DC 5AB:E6 5AD:DE
  5AE:E4 5AF:E6 5B0:A 5B1:B 5B2:C 5B3:D 5B4:E 5B5:F 5B6:10 5B7:11 5B8:12 5B9:13 5BB:14 5BC:15
  5BD:16 5BF:17 5C1:18 5C2:19 5C4:E6 5C5:DC 5C7:12 610:E6 618:1E 619:1F 61A:20 64B:1B 64C:1C
  64D:1D 64E:1E 64F:1F 650:20 651:21 652:22 653:E6 655:DC 657:E6 65C:DC 65D:E6 65F:DC 670:23
  6D6:E6 6E3:DC 6E4:E6 6EA:DC 6EB:E6 6ED:DC 711:24 730:E6 731:DC 732:E6 734:DC 735:E6 737:DC
  73A:E6 73B:DC 73D:E6 73E:DC 73F:E6 742:DC 743:E6 744:DC 745:E6 746:DC 747:E6 748:DC 749:E6 7A6:0
  7EB:E6 7F2:DC 7F3:E6 7FD:DC 816:E6 859:DC 897:E6 899:DC 89C:E6 8CF:DC 8D4:E6 8E3:DC 8E4:E6
  8E6:DC 8E7:E6 8E9:DC 8EA:E6 8ED:DC 8F0:1B 8F1:1C 8F2:1D 8F3:E6 8F6:DC 8F7:E6 8F9:DC 8FB:E6 900:0
  93C:7 93E:0 94D:9 94E:0 951:E6 952:DC 953:E6 955:0 9BC:7 9BE:0 9CD:9 9D7:0 9FE:E6 A01:0 A3C:7
  A3E:0 A4D:9 A51:0 ABC:7 ABE:0 ACD:9 AE2:0 B3C:7 B3E:0 B4D:9 B55:0 BCD:9 BD7:0 C3C:7 C3E:0 C4D:9
  C55:54 C56:5B C62:0 CBC:7 CBE:0 CCD:9 CD5:0 D3B:9 D3E:0 D4D:9 D57:0 DCA:9 DCF:0 E38:67 E3A:9
  E47:0 E48:6B E4C:0 EB8:76 EBA:9 EBB:0 EC8:7A ECC:0 F18:DC F39:D8 F3E:0 F71:81 F72:82 F74:84
  F7A:82 F7E:0 F80:82 F82:E6 F84:9 F86:E6 F8D:0 FC6:DC 102B:0 1037:7 1038:0 1039:9 103B:0 108D:DC
  108F:0 135D:E6 1712:0 1714:9 1732:0 1734:9 1752:0 17D2:9 17D3:0 17DD:E6 1885:0 18A9:E4 1920:0
  1939:DE 193A:E6 193B:DC 1A17:E6 1A18:DC 1A19:0 1A60:9 1A61:0 1A75:E6 1A7F:DC 1AB0:E6 1AB5:DC
  1ABB:E6 1ABD:DC 1ABE:0 1ABF:DC 1AC1:E6 1AC3:DC 1AC5:E6 1ACA:DC 1ACB:E6 1ADD:DC 1AE0:E6 1AE6:DC
  1AE7:E6 1AEB:EA 1B00:0 1B34:7 1B35:0 1B44:9 1B6B:E6 1B6C:DC 1B6D:E6 1B80:0 1BAA:9 1BAC:0 1BE6:7
  1BE7:0 1BF2:9 1C24:0 1C37:7 1CD0:E6 1CD4:1 1CD5:DC 1CDA:E6 1CDC:DC 1CE0:E6 1CE1:0 1CE2:1 1CED:DC
  1CF4:E6 1CF7:0 1CF8:E6 1DC2:DC 1DC3:E6 1DCA:DC 1DCB:E6 1DCD:EA 1DCE:D6 1DCF:DC 1DD0:CA 1DD1:E6
  1DF6:E8 1DF7:E4 1DF9:DC 1DFA:DA 1DFB:E6 1DFC:E9 1DFD:DC 1DFE:E6 1DFF:DC 20D0:E6 20D2:1 20D4:E6
  20D8:1 20DB:E6 20DD:0 20E1:E6 20E2:0 20E5:1 20E7:E6 20E8:DC 20E9:E6 20EA:1 20EC:DC 20F0:E6
  2D7F:9 2DE0:E6 302A:DA 302B:E4 302C:E8 302D:DE 302E:E0 3099:8 A66F:E6 A670:0 A674:E6 A802:0
  A806:9 A80B:0 A82C:9 A880:0 A8C4:9 A8C5:0 A8E0:E6 A8FF:0 A92B:DC A947:0 A953:9 A980:0 A9B3:7
  A9B4:0 A9C0:9 A9E5:0 AAB0:E6 AAB4:DC AAB7:E6 AAEB:0 AAF6:9 ABE3:0 ABED:9 FB1E:1A FE20:E6 FE27:DC
  FE2E:E6 101FD:DC 10376:E6 10A01:0 10A0D:DC 10A0E:0 10A0F:E6 10A39:1 10A3A:DC 10A3F:9 10AE5:E6
  10AE6:DC 10D24:E6 10EFA:DC 10EFC:0 10EFD:DC 10F48:E6 10F4B:DC 10F4C:E6 10F4D:DC 10F82:E6
  10F83:DC 10F84:E6 10F85:DC 11000:0 11046:9 11073:0 1107F:9 11080:0 110B9:9 110BA:7 110C2:0
  11100:E6 11127:0 11133:9 11145:0 11173:7 11180:0 111C0:9 111C9:0 111CA:7 111CB:0 11235:9 11236:7
  11237:0 112E9:7 112EA:9 11300:0 1133B:7 1133E:0 1134D:9 11357:0 11366:E6 113B8:0 113CE:9 113D2:0
  11442:9 11443:0 11446:7 1145E:E6 114B0:0 114C2:9 114C3:7 115AF:0 115BF:9 115C0:7 115DC:0 1163F:9
  11640:0 116B6:9 116B7:7 1171D:0 1172B:9 1182C:0 11839:9 1183A:7 11930:0 1193D:9 11940:0 11943:7
  119D1:0 119E0:9 119E4:0 11A34:9 11A35:0 11A47:9 11A51:0 11A99:9 11B60:0 11C3F:9 11C92:0 11D42:7
  11D43:0 11D44:9 11D47:0 11D97:9 11EF3:0 11F41:9 11F5A:0 1612F:9 16AF0:1 16B30:E6 16F4F:0 16FF0:6
  1BC9D:0 1BC9E:1 1CF00:0 1D165:D8 1D167:1 1D16D:E2 1D16E:D8 1D17B:DC 1D185:E6 1D18A:DC 1D1AA:E6
  1DA00:0 1E000:E6 1E4EC:E8 1E4EE:DC 1E4EF:E6 1E5EF:DC 1E6E3:E6 1E8D0:DC 1E944:E6 1E94A:7"

/-- The changes of the kind. -/
def kindSteps : Steps MarkKind :=
  .ofTable (fun v => if v = ['n'] then .nonspacing else if v = ['s'] then .spacing else .base)
    markKinds

/-- The changes of the combining class from mark to mark. -/
def classSteps : Steps Nat := .ofTable hexNumber markClasses

/-- How a character combines. -/
def markKind (c : Char) : MarkKind :=
  if c.toNat < 0x80 then .base else kindSteps.value .base c.toNat

/-- The character is a mark. -/
def isMark (c : Char) : Bool := markKind c != .base

/-- The combining class of a character. -/
def combiningClass (c : Char) : Nat := if isMark c then classSteps.value 0 c.toNat else 0

/-- The combining class of the signs that silence a vowel. -/
def viramaClass : Nat := 9

end CpuAlert.Domain
