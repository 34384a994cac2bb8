import Recommend.Text.Table

/-!
The direction in which characters are written.
-/

namespace Recommend.Text

/-- The direction of a character. -/
inductive Direction where
  | leftToRight
  | rightToLeft
  /-- Arabic digits. -/
  | arabicDigit
  /-- European digits. -/
  | digit
  /-- A mark, which goes with the character before it. -/
  | mark
  | neutral
  deriving DecidableEq

/-- Characters with their directions; all others are written from left to right. -/
def directionLines : List String :=
  ["0-8=n e-1b=n 21-2f=n 30-39=e 3a-40=n 5b-60=n 7b-bf=n d7=n f7=n 2b9-2ba=n 2c2-2cf=n",
   "2d2-2ed=n 2ef-2ff=n 300-36f=m 374-375=n 37e-385=n 387=n 3f6=n 483-489=m 58a-58f=n",
   "591-5bd=m 5be=r 5bf=m 5c0=r 5c1-5c2=m 5c3=r 5c4-5c5=m 5c6=r 5c7=m 5d0-5f4=r",
   "606-607=n 608=r 609-60a=n 60b=r 60c=n 60d=r 60e-60f=n 610-61a=m 61b-64a=r",
   "64b-65f=m 660-669=a 66a=n 66b-66c=a 66d-66f=r 670=m 671-6d5=r 6d6-6dc=m 6de=n",
   "6df-6e4=m 6e5-6e6=r 6e7-6e8=m 6e9=n 6ea-6ed=m 6ee-6ef=r 6f0-6f9=e 6fa-710=r 711=m",
   "712-72f=r 730-74a=m 74d-7a5=r 7a6-7b0=m 7b1-7ea=r 7eb-7f3=m 7f4-7f5=r 7f6-7f9=n",
   "7fa=r 7fd=m 7fe-815=r 816-819=m 81a=r 81b-823=m 824=r 825-827=m 828=r 829-82d=m",
   "830-858=r 859-85b=m 85e-88f=r 897-89f=m 8a0-8c9=r 8ca-902=m 93a=m 93c=m 941-948=m",
   "94d=m 951-957=m 962-963=m 981=m 9bc=m 9c1-9c4=m 9cd=m 9e2-9e3=m 9f2-9f3=n 9fb=n",
   "9fe-a02=m a3c=m a41-a51=m a70-a71=m a75=m a81-a82=m abc=m ac1-ac8=m acd=m",
   "ae2-ae3=m af1=n afa-b01=m b3c=m b3f=m b41-b44=m b4d-b56=m b62-b63=m b82=m bc0=m",
   "bcd=m bf3-bfa=n c00=m c04=m c3c=m c3e-c40=m c46-c56=m c62-c63=m c78-c7e=n c81=m",
   "cbc=m ccc-ccd=m ce2-ce3=m d00-d01=m d3b-d3c=m d41-d44=m d4d=m d62-d63=m d81=m",
   "dca=m dd2-dd6=m e31=m e34-e3a=m e3f=n e47-e4e=m eb1=m eb4-ebc=m ec8-ece=m",
   "f18-f19=m f35=m f37=m f39=m f3a-f3d=n f71-f7e=m f80-f84=m f86-f87=m f8d-fbc=m",
   "fc6=m 102d-1030=m 1032-1037=m 1039-103a=m 103d-103e=m 1058-1059=m 105e-1060=m",
   "1071-1074=m 1082=m 1085-1086=m 108d=m 109d=m 135d-135f=m 1390-1399=n 1400=n",
   "169b-169c=n 1712-1714=m 1732-1733=m 1752-1753=m 1772-1773=m 17b7-17bd=m 17c6=m",
   "17c9-17d3=m 17db=n 17dd=m 17f0-180a=n 1885-1886=m 18a9=m 1920-1922=m 1927-1928=m",
   "1932=m 1939-193b=m 1940-1945=n 19de-19ff=n 1a17-1a18=m 1a1b=m 1a56=m 1a58-1a60=m",
   "1a62=m 1a65-1a6c=m 1a73-1a7f=m 1ab0-1b03=m 1b34=m 1b36-1b3a=m 1b3c=m 1b42=m",
   "1b6b-1b73=m 1b80-1b81=m 1ba2-1ba5=m 1ba8-1ba9=m 1bab-1bad=m 1be6=m 1be8-1be9=m",
   "1bed=m 1bef-1bf1=m 1c2c-1c33=m 1c36-1c37=m 1cd0-1cd2=m 1cd4-1ce0=m 1ce2-1ce8=m",
   "1ced=m 1cf4=m 1cf8-1cf9=m 1dc0-1dff=m 1fc1=n 1fcd-1fcf=n 1fdd-1fdf=n 1fed-1fef=n",
   "1ffd=n 200c-20c1=n 20d0-20f0=m 2104-2125=n 2127-2129=n 212e-214d=n 218a-2335=n",
   "237b-2394=n 2396-2426=n 2440-26ab=n 26ad-27ff=n 2900-2b95=n 2b97-2bff=n",
   "2ce5-2cea=n 2cef-2cf1=m 2cf9-2cff=n 2d7f=m 2de0-2dff=m 2e00-3004=n 3008-3020=n",
   "302a-302d=m 3030=n 3037=n 303d-303f=n 3099-309a=m 30a0=n 30fb=n 31c0-31e3=n",
   "4dc0-4dff=n a490-a4c6=n a60d-a60f=n a66f-a672=m a673=n a674-a67d=m a67e-a67f=n",
   "a69e-a69f=m a6f0-a6f1=m a700-a721=n a788=n a802=m a806=m a80b=m a825-a826=m",
   "a828-a82b=n a82c=m a838-a839=n a874-a877=n a8c4-a8c5=m a8e0-a8f1=m a8ff=m",
   "a926-a92d=m a947-a951=m a980-a982=m a9b3=m a9b6-a9b9=m a9bc-a9bd=m a9e5=m",
   "aa29-aa2e=m aa31-aa32=m aa35-aa36=m aa43=m aa4c=m aa7c=m aab0=m aab2-aab4=m",
   "aab7-aab8=m aabe-aabf=m aac1=m aaec-aaed=m aaf6=m ab6a-ab6b=n abe5=m abe8=m abed=m",
   "fb1d=r fb1e=m fb1f-fbd2=r fd3e-fd4f=n fd90-fdce=r fdcf-fdff=n fe20-fe2f=m",
   "fe45-fe46=n fe73=r 10101=n 10140-1018c=n 10190-101a0=n 101fd=m 102e0=m",
   "102e1-102fb=e 10376-1037a=m 10800-1091b=r 1091f=n 10920-10a00=r 10a01-10a0f=m",
   "10a10-10a35=r 10a38-10a3f=m 10a40-10ae4=r 10ae5-10ae6=m 10aeb-10b35=r",
   "10b39-10b3f=n 10b40-10d23=r 10d24-10d27=m 10d30-10d39=a 10d40-10d4f=r",
   "10d69-10d6d=m 10d6e-10d8f=r 10e60-10e7e=a 10e80-10ea9=r 10eab-10eac=m",
   "10ead-10ed8=r 10efa-10eff=m 10f00-10f45=r 10f46-10f50=m 10f51-10f81=r",
   "10f82-10f85=m 10f86-10ff6=r 11001=m 11038-11046=m 11052-11065=n 11070=m",
   "11073-11074=m 1107f-11081=m 110b3-110b6=m 110b9-110ba=m 110c2=m 11100-11102=m",
   "11127-1112b=m 1112d-11134=m 11173=m 11180-11181=m 111b6-111be=m 111c9-111cc=m",
   "111cf=m 1122f-11231=m 11234=m 11236-11237=m 1123e=m 11241=m 112df=m 112e3-112ea=m",
   "11300-11301=m 1133b-1133c=m 11340=m 11366-11374=m 113bb-113c0=m 113ce=m 113d0=m",
   "113d2=m 113e1-113e2=m 11438-1143f=m 11442-11444=m 11446=m 1145e=m 114b3-114b8=m",
   "114ba=m 114bf-114c0=m 114c2-114c3=m 115b2-115b5=m 115bc-115bd=m 115bf-115c0=m",
   "115dc-115dd=m 11633-1163a=m 1163d=m 1163f-11640=m 11660-1166c=n 116ab=m 116ad=m",
   "116b0-116b5=m 116b7=m 1171d-1171f=m 11722-11725=m 11727-1172b=m 1182f-11837=m",
   "11839-1183a=m 1193b-1193c=m 1193e=m 11943=m 119d4-119db=m 119e0=m 11a01-11a06=m",
   "11a09-11a0a=m 11a33-11a38=m 11a3b-11a3e=m 11a47=m 11a51-11a56=m 11a59-11a5b=m",
   "11a8a-11a96=m 11a98-11a99=m 11b60=m 11b62-11b64=m 11b66=m 11c30-11c3d=m",
   "11c92-11ca7=m 11caa-11cb0=m 11cb2-11cb3=m 11cb5-11cb6=m 11d31-11d45=m 11d47=m",
   "11d90-11d91=m 11d95=m 11d97=m 11ef3-11ef4=m 11f00-11f01=m 11f36-11f3a=m 11f40=m",
   "11f42=m 11f5a=m 11fd5-11ff1=n 13440=m 13447-13455=m 1611e-16129=m 1612d-1612f=m",
   "16af0-16af4=m 16b30-16b36=m 16f4f=m 16f8f-16f92=m 16fe2=n 16fe4=m 1bc9d-1bc9e=m",
   "1cf00-1cf46=m 1d167-1d169=m 1d17b-1d182=m 1d185-1d18b=m 1d1aa-1d1ad=m",
   "1d1e9-1d241=n 1d242-1d244=m 1d245=n 1d300-1d356=n 1da00-1da36=m 1da3b-1da6c=m",
   "1da75=m 1da84=m 1da9b-1daaf=m 1e000-1e08f=m 1e130-1e136=m 1e2ae=m 1e2ec-1e2ef=m",
   "1e2ff=n 1e4ec-1e4ef=m 1e5ee-1e5ef=m 1e6e3=m 1e6e6=m 1e6ee-1e6ef=m 1e6f5=m",
   "1e800-1e8cf=r 1e8d0-1e8d6=m 1e922-1e943=r 1e944-1e94a=m 1e94b-1ed3d=r",
   "1eef0-1f12f=n 1f16d-1f16f=n 1f1ad=n 1f260-1f6d7=n 1f6dc-1f776=n 1f77b-1f8b1=n",
   "1f900-1fa53=n 1fa60-1fa88=n 1fa90-1fabd=n 1fabf-1fac5=n 1face-1fadb=n",
   "1fae0-1fae8=n 1faf0-1fbca=n"]

/-- The direction that a letter of the table stands for. -/
def Direction.ofLetter : List Char → Direction
  | ['r'] => rightToLeft
  | ['a'] => arabicDigit
  | ['e'] => digit
  | ['m'] => mark
  | ['n'] => neutral
  | _ => leftToRight

/-- The table of directions. -/
def directions : Table Direction := .ofLines Direction.ofLetter directionLines

/-- In which direction a character is written. -/
def direction (c : Char) : Direction :=
  ((directions.lookup? c).map Prod.snd).getD .leftToRight

end Recommend.Text
