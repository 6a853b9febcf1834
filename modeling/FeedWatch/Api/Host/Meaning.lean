import FeedWatch.Text.CharSet

namespace FeedWatch.Api.Host

open Text

-- Most characters stand for themselves. The wide, the raised, the capital ones and
-- others like them are other ways to write some characters.
inductive Meaning where
  | itself
  -- other characters, none of them ASCII
  | others
  -- these characters, some of them ASCII
  | text (s : List Char)
  | nothing
  -- no host name has this character
  | forbidden
  deriving DecidableEq, Repr

-- Characters that stand for the same text, or for characters that follow each other
-- as they do.
structure Spelling where
  range : CodePoints
  text : List Char

namespace Spelling

-- As in `2103=°c`, or `FF10-FF19=0` for the ten wide digits.
def ofText? (s : List Char) : Option Spelling := do
  let (range, text) ← cut? ['='] s
  return { range := ← CodePoints.ofText? range, text }

def read? (s : Spelling) (c : Char) : Option (List Char) :=
  if s.range.contains c.toNat then
    match s.text with
    | [first] => some [Char.ofNat (first.toNat + (c.toNat - s.range.low))]
    | text => some text
  else none

end Spelling

def spellings : List Spelling := (words
  "AA=a B2-B3=2 B9=1 BA=o BC=1⁄4 BD=1⁄2 BE=3⁄4 130=i\u0307 132=ij 133=ij 13F=l· 140=l· 149=ʼn
   17F=s 1C4=dž 1C5=dž 1C6=dž 1C7=lj 1C8=lj 1C9=lj 1CA=nj 1CB=nj 1CC=nj 1F1=dz 1F2=dz 1F3=dz
   2B0=h 2B2=j 2B3=r 2B7=w 2B8=y 2E1=l 2E2=s 2E3=x 37E=; 1D2C=a 1D2E=b 1D30-1D31=d 1D33-1D3A=g
   1D3C=o 1D3E=p 1D3F=r 1D40-1D41=t 1D42=w 1D43=a 1D47=b 1D48-1D49=d 1D4D=g 1D4F=k 1D50=m 1D52=o
   1D56=p 1D57-1D58=t 1D5B=v 1D62=i 1D63=r 1D64-1D65=u 1D9C=c 1DA0=f 1DBB=z 1E9A=aʾ 1FEF=\x60
   203C=!! 2070=0 2071=i 2074-2079=4 207A=+ 207C== 207D-207E=( 207F=n 2080-2089=0 208A=+ 208C==
   208D-208E=( 2090=a 2091=e 2092=o 2093=x 2095=h 2096-2099=k 209A=p 209B-209C=s 20A8=rs 2102=c
   2103=°c 2109=°f 210A-210B=g 210C=h 210D=h 210E=h 2110=i 2111=i 2112=l 2113=l 2115=n 2116=no
   2119-211B=p 211C=r 211D=r 2120=sm 2121=tel 2122=tm 2124=z 2128=z 212A=k 212C-212D=b 212F=e
   2130-2131=e 2133=m 2134=o 2139=i 213B=fax 2145=d 2146-2147=d 2148-2149=i 2150=1⁄7 2151=1⁄9
   2152=1⁄10 2153=1⁄3 2154=2⁄3 2155=1⁄5 2156=2⁄5 2157=3⁄5 2158=4⁄5 2159=1⁄6 215A=5⁄6 215B=1⁄8
   215C=3⁄8 215D=5⁄8 215E=7⁄8 215F=1⁄ 2160=i 2161=ii 2162=iii 2163=iv 2164=v 2165=vi 2166=vii
   2167=viii 2168=ix 2169=x 216A=xi 216B=xii 216C=l 216D-216E=c 216F=m 2170=i 2171=ii 2172=iii
   2173=iv 2174=v 2175=vi 2176=vii 2177=viii 2178=ix 2179=x 217A=xi 217B=xii 217C=l 217D-217E=c
   217F=m 2189=0⁄3 2460-2468=1 2469=10 246A=11 246B=12 246C=13 246D=14 246E=15 246F=16 2470=17
   2471=18 2472=19 2473=20 2474=(1) 2475=(2) 2476=(3) 2477=(4) 2478=(5) 2479=(6) 247A=(7)
   247B=(8) 247C=(9) 247D=(10) 247E=(11) 247F=(12) 2480=(13) 2481=(14) 2482=(15) 2483=(16)
   2484=(17) 2485=(18) 2486=(19) 2487=(20) 249C=(a) 249D=(b) 249E=(c) 249F=(d) 24A0=(e) 24A1=(f)
   24A2=(g) 24A3=(h) 24A4=(i) 24A5=(j) 24A6=(k) 24A7=(l) 24A8=(m) 24A9=(n) 24AA=(o) 24AB=(p)
   24AC=(q) 24AD=(r) 24AE=(s) 24AF=(t) 24B0=(u) 24B1=(v) 24B2=(w) 24B3=(x) 24B4=(y) 24B5=(z)
   24B6-24CF=a 24D0-24E9=a 24EA=0 2A75=== 2A76==== 2C7C=j 2C7D=v 3002=. 3200=(ᄀ) 3201=(ᄂ)
   3202=(ᄃ) 3203=(ᄅ) 3204=(ᄆ) 3205=(ᄇ) 3206=(ᄉ) 3207=(ᄋ) 3208=(ᄌ) 3209=(ᄎ) 320A=(ᄏ) 320B=(ᄐ)
   320C=(ᄑ) 320D=(ᄒ) 320E=(가) 320F=(나) 3210=(다) 3211=(라) 3212=(마) 3213=(바) 3214=(사) 3215=(아)
   3216=(자) 3217=(차) 3218=(카) 3219=(타) 321A=(파) 321B=(하) 321C=(주) 321D=(오전) 321E=(오후) 3220=(一)
   3221=(二) 3222=(三) 3223=(四) 3224=(五) 3225=(六) 3226=(七) 3227=(八) 3228=(九) 3229=(十) 322A=(月)
   322B=(火) 322C=(水) 322D=(木) 322E=(金) 322F=(土) 3230=(日) 3231=(株) 3232=(有) 3233=(社) 3234=(名)
   3235=(特) 3236=(財) 3237=(祝) 3238=(労) 3239=(代) 323A=(呼) 323B=(学) 323C=(監) 323D=(企) 323E=(資)
   323F=(協) 3240=(祭) 3241=(休) 3242=(自) 3243=(至) 3250=pte 3251=21 3252=22 3253=23 3254=24 3255=25
   3256=26 3257=27 3258=28 3259=29 325A=30 325B=31 325C=32 325D=33 325E=34 325F=35 32B1=36
   32B2=37 32B3=38 32B4=39 32B5=40 32B6=41 32B7=42 32B8=43 32B9=44 32BA=45 32BB=46 32BC=47
   32BD=48 32BE=49 32BF=50 32C0=1月 32C1=2月 32C2=3月 32C3=4月 32C4=5月 32C5=6月 32C6=7月 32C7=8月
   32C8=9月 32C9=10月 32CA=11月 32CB=12月 32CC=hg 32CD=erg 32CE=ev 32CF=ltd 3358=0点 3359=1点 335A=2点
   335B=3点 335C=4点 335D=5点 335E=6点 335F=7点 3360=8点 3361=9点 3362=10点 3363=11点 3364=12点 3365=13点
   3366=14点 3367=15点 3368=16点 3369=17点 336A=18点 336B=19点 336C=20点 336D=21点 336E=22点 336F=23点
   3370=24点 3371=hpa 3372=da 3373=au 3374=bar 3375=ov 3376=pc 3377=dm 3378=dm2 3379=dm3 337A=iu
   3380=pa 3381=na 3382=μa 3383=ma 3384=ka 3385=kb 3386=mb 3387=gb 3388=cal 3389=kcal 338A=pf
   338B=nf 338C=μf 338D=μg 338E=mg 338F=kg 3390=hz 3391=khz 3392=mhz 3393=ghz 3394=thz 3395=μl
   3396=ml 3397=dl 3398=kl 3399=fm 339A=nm 339B=μm 339C=mm 339D=cm 339E=km 339F=mm2 33A0=cm2
   33A1=m2 33A2=km2 33A3=mm3 33A4=cm3 33A5=m3 33A6=km3 33A7=m∕s 33A8=m∕s2 33A9=pa 33AA=kpa
   33AB=mpa 33AC=gpa 33AD=rad 33AE=rad∕s 33AF=rad∕s2 33B0=ps 33B1=ns 33B2=μs 33B3=ms 33B4=pv
   33B5=nv 33B6=μv 33B7=mv 33B8=kv 33B9=mv 33BA=pw 33BB=nw 33BC=μw 33BD=mw 33BE=kw 33BF=mw
   33C0=kω 33C1=mω 33C3=bq 33C4=cc 33C5=cd 33C6=c∕kg 33C8=db 33C9=gy 33CA=ha 33CB=hp 33CC=in
   33CD=kk 33CE=km 33CF=kt 33D0=lm 33D1=ln 33D2=log 33D3=lx 33D4=mb 33D5=mil 33D6=mol 33D7=ph
   33D9=ppm 33DA=pr 33DB=sr 33DC=sv 33DD=wb 33DE=v∕m 33DF=a∕m 33E0=1日 33E1=2日 33E2=3日 33E3=4日
   33E4=5日 33E5=6日 33E6=7日 33E7=8日 33E8=9日 33E9=10日 33EA=11日 33EB=12日 33EC=13日 33ED=14日 33EE=15日
   33EF=16日 33F0=17日 33F1=18日 33F2=19日 33F3=20日 33F4=21日 33F5=22日 33F6=23日 33F7=24日 33F8=25日
   33F9=26日 33FA=27日 33FB=28日 33FC=29日 33FD=30日 33FE=31日 33FF=gal A7F1=s A7F2=c A7F3=f A7F4=q
   FB00=ff FB01=fi FB02=fl FB03=ffi FB04=ffl FB05=st FB06=st FB29=+ FE10=, FE14=; FE15=! FE33=_
   FE34=_ FE35-FE36=( FE37=\x7b FE38=\x7d FE4D=_ FE4E=_ FE4F=_ FE50=, FE54=; FE57=! FE59-FE5A=(
   FE5B=\x7b FE5C=\x7d FE60=& FE61-FE62=* FE63=- FE64=< FE65=> FE66== FE69=$ FF01-FF02=! FF04=$
   FF06-FF0E=& FF10-FF19=0 FF1B-FF1E=; FF21-FF3A=a FF3F-FF5B=_ FF5D-FF5E=\x7d FF61=. 107A5=q
   1CCD6-1CCEF=a 1CCF0-1CCF9=0 1D400-1D419=a 1D41A-1D433=a 1D434-1D44D=a 1D44E-1D454=a
   1D456-1D467=i 1D468-1D481=a 1D482-1D49B=a 1D49C=a 1D49E-1D49F=c 1D4A2=g 1D4A5-1D4A6=j
   1D4A9-1D4AC=n 1D4AE-1D4B5=s 1D4B6-1D4B9=a 1D4BB=f 1D4BD-1D4C3=h 1D4C5-1D4CF=p 1D4D0-1D4E9=a
   1D4EA-1D503=a 1D504-1D505=a 1D507-1D50A=d 1D50D-1D514=j 1D516-1D51C=s 1D51E-1D537=a
   1D538-1D539=a 1D53B-1D53E=d 1D540-1D544=i 1D546=o 1D54A-1D550=s 1D552-1D56B=a 1D56C-1D585=a
   1D586-1D59F=a 1D5A0-1D5B9=a 1D5BA-1D5D3=a 1D5D4-1D5ED=a 1D5EE-1D607=a 1D608-1D621=a
   1D622-1D63B=a 1D63C-1D655=a 1D656-1D66F=a 1D670-1D689=a 1D68A-1D6A3=a 1D7CE-1D7D7=0
   1D7D8-1D7E1=0 1D7E2-1D7EB=0 1D7EC-1D7F5=0 1D7F6-1D7FF=0 1F101=0, 1F102=1, 1F103=2, 1F104=3,
   1F105=4, 1F106=5, 1F107=6, 1F108=7, 1F109=8, 1F10A=9, 1F110=(a) 1F111=(b) 1F112=(c) 1F113=(d)
   1F114=(e) 1F115=(f) 1F116=(g) 1F117=(h) 1F118=(i) 1F119=(j) 1F11A=(k) 1F11B=(l) 1F11C=(m)
   1F11D=(n) 1F11E=(o) 1F11F=(p) 1F120=(q) 1F121=(r) 1F122=(s) 1F123=(t) 1F124=(u) 1F125=(v)
   1F126=(w) 1F127=(x) 1F128=(y) 1F129=(z) 1F12A=〔s〕 1F12B=c 1F12C=r 1F12D=cd 1F12E=wz
   1F130-1F149=a 1F14A=hv 1F14B=mv 1F14C=sd 1F14D=ss 1F14E=ppv 1F14F=wc 1F16A=mc 1F16B=md
   1F16C=mr 1F190=dj 1FBF0-1FBF9=0").filterMap Spelling.ofText?

def ignored : CharSet := .ofText
  "AD 34F 115F-1160 17B4-17B5 180B-180F 200B 2060-2064 206A-206F 3164 FE00-FE0F FEFF FFA0
   1BCA0-1BCA3 1D173-1D17A E0100-E01EF"

-- The characters that stand for others without any of ASCII. What is found in a set
-- above may be in this set and in the next one too.
def variants : CharSet := .ofText
  "B5 C0-D6 D8-DE 100-12E/2 134 136 139-13D/2 141-147/2 14A-176/2 178-179 17B 17D 181-182 184
   186-187 189-18B 18E-191 193-194 196-198 19C-19D 19F-1A0 1A2 1A4 1A6-1A7 1A9 1AC 1AE-1AF
   1B1-1B3 1B5 1B7-1B8 1BC 1CD-1DB/2 1DE-1EE/2 1F4 1F6-1F8 1FA-232/2 23A-23B 23D-23E 241 243-246
   248-24E/2 2B1-2B6 2E0-2E4 340-341 343-345 370-376/2 37F-38F 391-3AB 3CF-3D6 3D8-3EE/2 3F0-3F2
   3F4-3F5 3F7 3F9-3FA 3FD-42F 460-480/2 48A-4BE/2 4C0-4C1 4C3-4CD/2 4D0-52E/2 531-556 587
   675-678 958-95F 9DC-9DF A33 A36 A59-A5B A5E B5C-B5D E33 EB3 EDC-EDD F0C F43 F4D F52 F57 F5C
   F69 F73 F75-F79 F81 F93 F9D FA2 FA7 FAC FB9 10A0-10CD 10FC 13F8-13FD 1C80-1C89 1C90-1CBF 1D2D
   1D32 1D3D-1D4C 1D51-1D6A 1D78 1D9B-1DBF 1E00-1E94/2 1E9B 1E9E-1EFE/2 1F08-1F0F 1F18-1F1D
   1F28-1F2F 1F38-1F3F 1F48-1F4D 1F59-1F5F 1F68-1F6F 1F71-1F7B/2 1F7D-1FAF 1FB2-1FB4 1FB7-1FC4
   1FC7-1FCC 1FD3 1FD8-1FDB 1FE3 1FE8-1FF4 1FF7-1FFC 2011 2033-2034 2036-2037 2057 207B-2094
   2107 210F 2126 212B 2132-2138 213C-2140 2183 222C-222D 222F-2230 2329-232A 2A0C 2ADC
   2C00-2C2F 2C60 2C62-2C64 2C67-2C6B/2 2C6D-2C70 2C72 2C75 2C7E-2C80 2C82-2CE2/2 2CEB 2CED 2CF2
   2D6F 2E9F 2EF3-2FD5 3036 3038-303A 309F 30FF 3131-318E 3192-319F 3244-3247 3260-327E
   3280-337F A640-A66C/2 A680-A69A/2 A69C-A69D A722-A72E/2 A732-A770/2 A779 A77B A77D-A77E
   A780-A786/2 A78B A78D A790 A792 A796-A7A8/2 A7AA-A7AE A7B0-A7B4 A7B6-A7C2/2 A7C4-A7C7 A7C9
   A7CB-A7CC A7CE-A7DA/2 A7DC-A7F5 A7F8-A7F9 AB5C-AB5F AB69 AB70-ABBF F900-FA0D FA10 FA12
   FA15-FA1E FA20 FA22 FA25-FA26 FA2A-FB1D FB1F-FBB1 FBD3-FD3D FD50-FD8F FD92-FDC7 FDF0-FDFC
   FE11-FE18 FE31-FE44 FE51-FE71 FE77-FFEE 10400-10427 104B0-104D3 10570-10595 10781-107BA
   10C80-10CB2 10D50-10D65 118A0-118BF 16E40-16E5F 16EA0-16EB8 1D15E-1D164 1D1BB-1D1C0
   1D6A4-1D7CB 1E030-1E06D 1E900-1E921 1EE00-1EEBB 1F200-1F251 2F800-2FA1D"

def forbidden : CharSet := .ofText
  "80-A0 A8 AF B4 B8 2D8-2DD 378-37A 380-385 38B 38D 3A2 530 557-558 58B-58C 590 5C8-5CF 5EB-5EE
   5F5-605 61C 6DD 70E-70F 74B-74C 7B2-7BF 7FB-7FC 82E-82F 83F 85C-85D 85F 86B-86F 890-896 8E2
   984 98D-98E 991-992 9A9 9B1 9B3-9B5 9BA-9BB 9C5-9C6 9C9-9CA 9CF-9D6 9D8-9DB 9DE 9E4-9E5
   9FF-A00 A04 A0B-A0E A11-A12 A29 A31 A34 A37 A3A-A3B A3D A43-A46 A49-A4A A4E-A50 A52-A58 A5D
   A5F-A65 A77-A80 A84 A8E A92 AA9 AB1 AB4 ABA-ABB AC6 ACA ACE-ACF AD1-ADF AE4-AE5 AF2-AF8 B00
   B04 B0D-B0E B11-B12 B29 B31 B34 B3A-B3B B45-B46 B49-B4A B4E-B54 B58-B5B B5E B64-B65 B78-B81
   B84 B8B-B8D B91 B96-B98 B9B B9D BA0-BA2 BA5-BA7 BAB-BAD BBA-BBD BC3-BC5 BC9 BCE-BCF BD1-BD6
   BD8-BE5 BFB-BFF C0D C11 C29 C3A-C3B C45 C49 C4E-C54 C57 C5B C5E-C5F C64-C65 C70-C76 C8D C91
   CA9 CB4 CBA-CBB CC5 CC9 CCE-CD4 CD7-CDB CDF CE4-CE5 CF0 CF4-CFF D0D D11 D45 D49 D50-D53
   D64-D65 D80 D84 D97-D99 DB2 DBC DBE-DBF DC7-DC9 DCB-DCE DD5 DD7 DE0-DE5 DF0-DF1 DF5-E00
   E3B-E3E E5C-E80 E83 E85 E8B EA4 EA6 EBE-EBF EC5 EC7 ECF EDA-EDB EE0-EFF F48 F6D-F70 F98 FBD
   FCD FDB-FFF 10C6 10C8-10CC 10CE-10CF 1249 124E-124F 1257 1259 125E-125F 1289 128E-128F 12B1
   12B6-12B7 12BF 12C1 12C6-12C7 12D7 1311 1316-1317 135B-135C 137D-137F 139A-139F 13F6-13F7
   13FE-13FF 1680 169D-169F 16F9-16FF 1716-171E 1737-173F 1754-175F 176D 1771 1774-177F
   17DE-17DF 17EA-17EF 17FA-17FF 181A-181F 1879-187F 18AB-18AF 18F6-18FF 191F 192C-192F
   193C-193F 1941-1943 196E-196F 1975-197F 19AC-19AF 19CA-19CF 19DB-19DD 1A1C-1A1D 1A5F
   1A7D-1A7E 1A8A-1A8F 1A9A-1A9F 1AAE-1AAF 1ADE-1ADF 1AEC-1AFF 1B4D 1BF4-1BFB 1C38-1C3A
   1C4A-1C4C 1C8B-1C8F 1CBB-1CBC 1CC8-1CCF 1CFB-1CFF 1F16-1F17 1F1E-1F1F 1F46-1F47 1F4E-1F4F
   1F58-1F5E/2 1F7E-1F7F 1FB5 1FBD 1FBF-1FC1 1FC5 1FCD-1FCF 1FD4-1FD5 1FDC-1FDF 1FED-1FF1 1FF5
   1FFD-200A 200E-200F 2017 2024-2026 2028-202F 203E 2047-2049 205F-2073 208F 209D-209F
   20C2-20CF 20F1-2101 2105-2106 218C-218F 242A-243F 244B-249B 2A74 2B74-2B75 2CF4-2CF8 2D26
   2D28-2D2C 2D2E-2D2F 2D68-2D6E 2D71-2D7E 2D97-2D9F 2DA7 2DAF 2DB7 2DBF 2DC7 2DCF 2DD7 2DDF
   2E5E-2E7F 2E9A 2EF4-2EFF 2FD6-3000 3040 3097-3098 309B-309C 3100-3104 3130 318F 31E6-31EF
   321F 33C2-33D8 A48D-A48F A4C7-A4CF A62C-A63F A6F8-A6FF A7DD-A7F0 A82D-A82F A83A-A83F
   A878-A87F A8C6-A8CD A8DA-A8DF A954-A95E A97D-A97F A9CE A9DA-A9DD A9FF AA37-AA3F AA4E-AA4F
   AA5A-AA5B AAC3-AADA AAF7-AB00 AB07-AB08 AB0F-AB10 AB17-AB1F AB27 AB2F AB6C-AB6F ABEE-ABEF
   ABFA-ABFF D7A4-D7AF D7C7-D7CA D7FC-F8FF FA6E-FA6F FADA-FB12 FB18-FB1C FB37 FB3D FB3F FB42
   FB45 FC5E-FC63 FDD0-FDEF FDFA-FDFB FE12-FE16 FE19-FE1F FE30 FE47-FE4C FE52-FE56 FE5F-FE70
   FE72 FE74-FE76 FE78-FE7E/2 FEFD-FF5C FFBF-FFC1 FFC8-FFC9 FFD0-FFD1 FFD8-FFD9 FFDD-FFDF FFE3
   FFE7 FFEF-FFFF 1000C 10027 1003B 1003E 1004E-1004F 1005E-1007F 100FB-100FF 10103-10106
   10134-10136 1018F 1019D-1019F 101A1-101CF 101FE-1027F 1029D-1029F 102D1-102DF 102FC-102FF
   10324-1032C 1034B-1034F 1037B-1037F 1039E 103C4-103C7 103D6-103FF 1049E-1049F 104AA-104AF
   104D4-104D7 104FC-104FF 10528-1052F 10564-1056E 1057B 1058B 10593 10596 105A2 105B2 105BA
   105BD-105BF 105F4-105FF 10737-1073F 10756-1075F 10768-1077F 10786 107B1 107BB-107FF
   10806-10807 10809 10836 10839-1083B 1083D-1083E 10856 1089F-108A6 108B0-108DF 108F3
   108F6-108FA 1091C-1091E 1093A-1093E 1095A-1097F 109B8-109BB 109D0-109D1 10A04 10A07-10A0B
   10A14 10A18 10A36-10A37 10A3B-10A3E 10A49-10A4F 10A59-10A5F 10AA0-10ABF 10AE7-10AEA
   10AF7-10AFF 10B36-10B38 10B56-10B57 10B73-10B77 10B92-10B98 10B9D-10BA8 10BB0-10BFF
   10C49-10C7F 10CB3-10CBF 10CF3-10CF9 10D28-10D2F 10D3A-10D3F 10D66-10D68 10D86-10D8D
   10D90-10E5F 10E7F 10EAA 10EAE-10EAF 10EB2-10EC1 10EC8-10ECF 10ED9-10EF9 10F28-10F2F
   10F5A-10F6F 10F8A-10FAF 10FCC-10FDF 10FF7-10FFF 1104E-11051 11076-1107E 110BD 110C3-110CF
   110E9-110EF 110FA-110FF 11135 11148-1114F 11177-1117F 111E0 111F5-111FF 11212 11242-1127F
   11287 11289 1128E 1129E 112AA-112AF 112EB-112EF 112FA-112FF 11304 1130D-1130E 11311-11312
   11329 11331 11334 1133A 11345-11346 11349-1134A 1134E-1134F 11351-11356 11358-1135C
   11364-11365 1136D-1136F 11375-1137F 1138A 1138C-1138D 1138F 113B6 113C1 113C3-113C4 113C6
   113CB 113D6 113D9-113E0 113E3-113FF 1145C 11462-1147F 114C8-114CF 114DA-1157F 115B6-115B7
   115DE-115FF 11645-1164F 1165A-1165F 1166D-1167F 116BA-116BF 116CA-116CF 116E4-116FF
   1171B-1171C 1172C-1172F 11747-117FF 1183C-1189F 118F3-118FE 11907-11908 1190A-1190B 11914
   11917 11936 11939-1193A 11947-1194F 1195A-1199F 119A8-119A9 119D8-119D9 119E5-119FF
   11A48-11A4F 11AA3-11AAF 11AF9-11AFF 11B0A-11B5F 11B68-11BBF 11BE2-11BEF 11BFA-11BFF 11C09
   11C37 11C46-11C4F 11C6D-11C6F 11C90-11C91 11CA8 11CB7-11CFF 11D07 11D0A 11D37-11D39 11D3B
   11D3E 11D48-11D4F 11D5A-11D5F 11D66 11D69 11D8F 11D92 11D99-11D9F 11DAA-11DAF 11DDC-11DDF
   11DEA-11EDF 11EF9-11EFF 11F11 11F3B-11F3D 11F5B-11FAF 11FB1-11FBF 11FF2-11FFE 1239A-123FF
   1246F 12475-1247F 12544-12F8F 12FF3-12FFF 13430-1343F 13456-1345F 143FB-143FF 14647-160FF
   1613A-167FF 16A39-16A3F 16A5F 16A6A-16A6D 16ABF 16ACA-16ACF 16AEE-16AEF 16AF6-16AFF
   16B46-16B4F 16B5A 16B62 16B78-16B7C 16B90-16D3F 16D7A-16E3F 16E9B-16E9F 16EB9-16EBA
   16ED4-16EFF 16F4B-16F4E 16F88-16F8E 16FA0-16FDF 16FE5-16FEF 16FF7-16FFF 18CD6-18CFE
   18D1F-18D7F 18DF3-1AFEF 1AFF4 1AFFC 1AFFF 1B123-1B131 1B133-1B14F 1B153-1B154 1B156-1B163
   1B168-1B16F 1B2FC-1BBFF 1BC6B-1BC6F 1BC7D-1BC7F 1BC89-1BC8F 1BC9A-1BC9B 1BCA4-1CBFF
   1CCFD-1CCFF 1CEB4-1CEB9 1CED1-1CEDF 1CEF1-1CEFF 1CF2E-1CF2F 1CF47-1CF4F 1CFC4-1CFFF
   1D0F6-1D0FF 1D127-1D128 1D1EB-1D1FF 1D246-1D2BF 1D2D4-1D2DF 1D2F4-1D2FF 1D357-1D35F
   1D379-1D551 1D6A6-1D6A7 1D7CC-1D7CD 1DA8C-1DA9A 1DAA0 1DAB0-1DEFF 1DF1F-1DF24 1DF2B-1DFFF
   1E007 1E019-1E01A 1E022 1E025 1E02B-1E02F 1E06E-1E08E 1E090-1E0FF 1E12D-1E12F 1E13E-1E13F
   1E14A-1E14D 1E150-1E28F 1E2AF-1E2BF 1E2FA-1E2FE 1E300-1E4CF 1E4FA-1E5CF 1E5FB-1E5FE
   1E600-1E6BF 1E6DF 1E6F6-1E6FD 1E700-1E7DF 1E7E7 1E7EC 1E7EF 1E7FF 1E8C5-1E8C6 1E8D7-1E8FF
   1E94C-1E94F 1E95A-1E95D 1E960-1EC70 1ECB5-1ED00 1ED3E-1EDFF 1EE04 1EE20 1EE23 1EE25-1EE26
   1EE28 1EE33 1EE38 1EE3A 1EE3C-1EE41 1EE43-1EE46 1EE48-1EE4C/2 1EE50 1EE53 1EE55-1EE56
   1EE58-1EE60/2 1EE63 1EE65-1EE66 1EE6B 1EE73 1EE78 1EE7D 1EE7F 1EE8A 1EE9C-1EEA0 1EEA4 1EEAA
   1EEBC-1EEEF 1EEF2-1EFFF 1F02C-1F02F 1F094-1F09F 1F0AF-1F0B0 1F0C0 1F0D0 1F0F6-1F100
   1F1AE-1F1E5 1F203-1F20F 1F23C-1F23F 1F249-1F24F 1F252-1F25F 1F266-1F2FF 1F6D9-1F6DB
   1F6ED-1F6EF 1F6FD-1F6FF 1F7DA-1F7DF 1F7EC-1F7EF 1F7F1-1F7FF 1F80C-1F80F 1F848-1F84F
   1F85A-1F85F 1F888-1F88F 1F8AE-1F8AF 1F8BC-1F8BF 1F8C2-1F8CF 1F8D9-1F8FF 1FA58-1FA5F
   1FA6E-1FA6F 1FA7D-1FA7F 1FA8B-1FA8D 1FAC7 1FAC9-1FACC 1FADD-1FADE 1FAEB-1FAEE 1FAF9-1FAFF
   1FB93 1FBFB-1FFFF 2A6E0-2A6FF 2B81E-2B81F 2CEAE-2CEAF 2EBE1-2EBEF 2EE5E-2F7FF 2FA1E-2FFFF
   3134B-3134F 3347A-10FFFF"

def asciiMeaning (c : Char) : Meaning := if c.isUpper then .text [c.toLower] else .itself

def meaning (c : Char) : Meaning :=
  if c.toNat < 0x80 then asciiMeaning c
  else
    match spellings.findSome? (·.read? c) with
    | some text => .text text
    | none =>
      if ignored.contains c then .nothing
      else if forbidden.contains c then .forbidden
      else if variants.contains c then .others
      else .itself

-- What a character is read as, `none` if it is forbidden. Where other characters are
-- meant it is kept: they would be treated alike from here on.
def Meaning.read? (c : Char) : Meaning → Option (List Char)
  | itself => some [c]
  | others => some [c]
  | text s => some s
  | nothing => some []
  | forbidden => none

end FeedWatch.Api.Host
