import FeedWatch.Api.Host.Composition
import FeedWatch.Api.Host.Mark

namespace FeedWatch.Api.Host

open Text

-- Letters that join on both sides, only to the one after them, only to the one before.
def joiningLetters : CharSet := .ofText
  "620 626 628 62A-62E 633-63F 641-647 649-64A 66E-66F 679-687 69A-6BF 6C1-6C2 6CC 6CE 6D0-6D1
   6FA-6FC 6FF 712-714 71A-71D 71F-727 729 72B 72D-72E 74E-758 75C-76A 76D-770 772 775-777
   77A-77F 7CA-7EA 841-845 848 84A-853 855 860 862-865 868 886 889-88D 88F-8A9 8AF-8B0 8B3-8B8
   8BA-8C8 1807 1820-1878 1887-18AA A840-A871 FB52-FB81 FB8E-FBA3 FBA6-FBAD FBD3-FBD6 FBE4-FBE9
   FBF6-FC36 FC38-FC5A FC5D FC66-FC69 FC6C-FC6F FC72-FC75 FC78-FC7F FC81-FC87 FC89 FC8C-FC90
   FC93-FCF1 FCF5-FD0C FD11-FD28 FD2D-FD3B FD50-FD8F FD92-FDC7 FDF2 FDF5-FDFC FE89-FE8C
   FE8F-FE92 FE95-FEA8 FEB1-FEEC FEEF-FEF4 10AC0-10AC4 10AD3-10AD6 10AD8-10ADC 10ADE-10AE0
   10AEB-10AEE 10B80 10B82 10B86-10B88 10B8A-10B8B 10B8D 10B90 10BAD-10BAE 10D01-10D21 10D23
   10EC3-10EC4 10EC6-10EC7 10F30-10F32 10F34-10F44 10F51-10F53 10F70-10F73 10F76-10F81 10FB0
   10FB2-10FB3 10FB8 10FBB-10FBC 10FBE-10FBF 10FC1 10FC4 10FCA 1E900-1E943 1EE01-1EE02
   1EE07-1EE12 1EE14-1EE17 1EE19-1EE7E 1EE81-1EE82 1EE84 1EE87-1EE92 1EE94-1EE97 1EE99-1EEA2
   1EEA7-1EEB2 1EEB4-1EEB7 1EEB9-1EEBB"

def joiningAfter : CharSet := .ofText
  "A872 10ACD 10AD7 10D00 10FCB"

def joiningBefore : CharSet := .ofText
  "622-625 627 629 62F-632 648 671-673 675-678 688-699 6C0 6C3-6CB 6CD 6CF 6D2-6D3 6D5 6EE-6EF
   710 715-719 71E 728-72C/2 72F-74D 759-75B 76B-76C 771 773-774 778-779 840 846-847 849 854
   856-858 867 869-882 88E 8AA-8AC 8AE 8B1-8B2 8B9 FB50-FB51 FB82-FB8D FBA4-FBA5 FBAE-FBB1
   FBD7-FBE3 FBEA-FBF5 FC37 FC5B-FC5C FC64-FC65 FC6A-FC6B FC70-FC71 FC76-FC77 FC80 FC88
   FC8A-FC8B FC91-FC92 FD0D-FD10 FD29-FD2C FD3C-FD3D FDF0-FDF1 FDF3-FDF4 FE81-FE88 FE8D-FE8E
   FE93-FE94 FEA9-FEB0 FEED-FEEE FEF5-FEFC 10AC5 10AC7 10AC9-10ACA 10ACE-10AD2 10ADD 10AE1 10AE4
   10AEF 10B81 10B83-10B85 10B89 10B8C 10B8E-10B8F 10B91 10BA9-10BAC 10D22 10EC2 10F33 10F54
   10F74-10F75 10FB4-10FB6 10FB9-10FBA 10FBD 10FC2-10FC3 10FC9 1EE00 1EE03-1EE06 1EE13 1EE18
   1EE80 1EE83 1EE85-1EE86 1EE93 1EE98 1EEA3-1EEA6 1EEB3 1EEB8"

-- Joining reaches across these.
def isTransparent (c : Char) : Bool := nonspacingMarks.contains c || c.toNat = 0x1E94B

def joinsAfter (c : Char) : Bool := joiningLetters.contains c || joiningAfter.contains c

def joinsBefore (c : Char) : Bool := joiningLetters.contains c || joiningBefore.contains c

-- The mark that takes the vowel off a letter.
def isVirama (c : Char) : Bool := markClass c = 9

def nonJoiner : Char := Char.ofNat 0x200C

def joiner : Char := Char.ofNat 0x200D

-- Both characters may follow a virama. The non-joiner may also part two letters that
-- would join. What stands before is given in reverse.
def mayStand (c : Char) (before after : List Char) : Bool :=
  match before with
  | [] => false
  | p :: _ =>
    isVirama p || (c = nonJoiner &&
      (before.dropWhile isTransparent).head?.any joinsAfter &&
      (after.dropWhile isTransparent).head?.any joinsBefore)

def areJoinersAllowed (before : List Char) : List Char → Bool
  | [] => true
  | c :: rest =>
    (!(c = nonJoiner || c = joiner) || mayStand c before rest) &&
      areJoinersAllowed (c :: before) rest

end FeedWatch.Api.Host
